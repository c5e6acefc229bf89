/-!
# Composition tables

Data of the Unicode character database about canonical equivalence, Hangul syllables apart.

* `compositions` — two characters and the one that they compose to.
* `expansions`, `replacements` — characters that decompose and are never composed again.
* `combiningClasses` — the combining classes other than zero.
-/

namespace MapQuery.Text

/-- First character, second character, and the character that the two compose to. -/
def compositions : List (Nat × Nat × Nat) := [
  (0x41, 0x300, 0xc0), (0x41, 0x301, 0xc1), (0x41, 0x302, 0xc2), (0x41, 0x303, 0xc3),
  (0x41, 0x308, 0xc4), (0x41, 0x30a, 0xc5), (0x43, 0x327, 0xc7), (0x45, 0x300, 0xc8),
  (0x45, 0x301, 0xc9), (0x45, 0x302, 0xca), (0x45, 0x308, 0xcb), (0x49, 0x300, 0xcc),
  (0x49, 0x301, 0xcd), (0x49, 0x302, 0xce), (0x49, 0x308, 0xcf), (0x4e, 0x303, 0xd1),
  (0x4f, 0x300, 0xd2), (0x4f, 0x301, 0xd3), (0x4f, 0x302, 0xd4), (0x4f, 0x303, 0xd5),
  (0x4f, 0x308, 0xd6), (0x55, 0x300, 0xd9), (0x55, 0x301, 0xda), (0x55, 0x302, 0xdb),
  (0x55, 0x308, 0xdc), (0x59, 0x301, 0xdd), (0x61, 0x300, 0xe0), (0x61, 0x301, 0xe1),
  (0x61, 0x302, 0xe2), (0x61, 0x303, 0xe3), (0x61, 0x308, 0xe4), (0x61, 0x30a, 0xe5),
  (0x63, 0x327, 0xe7), (0x65, 0x300, 0xe8), (0x65, 0x301, 0xe9), (0x65, 0x302, 0xea),
  (0x65, 0x308, 0xeb), (0x69, 0x300, 0xec), (0x69, 0x301, 0xed), (0x69, 0x302, 0xee),
  (0x69, 0x308, 0xef), (0x6e, 0x303, 0xf1), (0x6f, 0x300, 0xf2), (0x6f, 0x301, 0xf3),
  (0x6f, 0x302, 0xf4), (0x6f, 0x303, 0xf5), (0x6f, 0x308, 0xf6), (0x75, 0x300, 0xf9),
  (0x75, 0x301, 0xfa), (0x75, 0x302, 0xfb), (0x75, 0x308, 0xfc), (0x79, 0x301, 0xfd),
  (0x79, 0x308, 0xff), (0x41, 0x304, 0x100), (0x61, 0x304, 0x101), (0x41, 0x306, 0x102),
  (0x61, 0x306, 0x103), (0x41, 0x328, 0x104), (0x61, 0x328, 0x105), (0x43, 0x301, 0x106),
  (0x63, 0x301, 0x107), (0x43, 0x302, 0x108), (0x63, 0x302, 0x109), (0x43, 0x307, 0x10a),
  (0x63, 0x307, 0x10b), (0x43, 0x30c, 0x10c), (0x63, 0x30c, 0x10d), (0x44, 0x30c, 0x10e),
  (0x64, 0x30c, 0x10f), (0x45, 0x304, 0x112), (0x65, 0x304, 0x113), (0x45, 0x306, 0x114),
  (0x65, 0x306, 0x115), (0x45, 0x307, 0x116), (0x65, 0x307, 0x117), (0x45, 0x328, 0x118),
  (0x65, 0x328, 0x119), (0x45, 0x30c, 0x11a), (0x65, 0x30c, 0x11b), (0x47, 0x302, 0x11c),
  (0x67, 0x302, 0x11d), (0x47, 0x306, 0x11e), (0x67, 0x306, 0x11f), (0x47, 0x307, 0x120),
  (0x67, 0x307, 0x121), (0x47, 0x327, 0x122), (0x67, 0x327, 0x123), (0x48, 0x302, 0x124),
  (0x68, 0x302, 0x125), (0x49, 0x303, 0x128), (0x69, 0x303, 0x129), (0x49, 0x304, 0x12a),
  (0x69, 0x304, 0x12b), (0x49, 0x306, 0x12c), (0x69, 0x306, 0x12d), (0x49, 0x328, 0x12e),
  (0x69, 0x328, 0x12f), (0x49, 0x307, 0x130), (0x4a, 0x302, 0x134), (0x6a, 0x302, 0x135),
  (0x4b, 0x327, 0x136), (0x6b, 0x327, 0x137), (0x4c, 0x301, 0x139), (0x6c, 0x301, 0x13a),
  (0x4c, 0x327, 0x13b), (0x6c, 0x327, 0x13c), (0x4c, 0x30c, 0x13d), (0x6c, 0x30c, 0x13e),
  (0x4e, 0x301, 0x143), (0x6e, 0x301, 0x144), (0x4e, 0x327, 0x145), (0x6e, 0x327, 0x146),
  (0x4e, 0x30c, 0x147), (0x6e, 0x30c, 0x148), (0x4f, 0x304, 0x14c), (0x6f, 0x304, 0x14d),
  (0x4f, 0x306, 0x14e), (0x6f, 0x306, 0x14f), (0x4f, 0x30b, 0x150), (0x6f, 0x30b, 0x151),
  (0x52, 0x301, 0x154), (0x72, 0x301, 0x155), (0x52, 0x327, 0x156), (0x72, 0x327, 0x157),
  (0x52, 0x30c, 0x158), (0x72, 0x30c, 0x159), (0x53, 0x301, 0x15a), (0x73, 0x301, 0x15b),
  (0x53, 0x302, 0x15c), (0x73, 0x302, 0x15d), (0x53, 0x327, 0x15e), (0x73, 0x327, 0x15f),
  (0x53, 0x30c, 0x160), (0x73, 0x30c, 0x161), (0x54, 0x327, 0x162), (0x74, 0x327, 0x163),
  (0x54, 0x30c, 0x164), (0x74, 0x30c, 0x165), (0x55, 0x303, 0x168), (0x75, 0x303, 0x169),
  (0x55, 0x304, 0x16a), (0x75, 0x304, 0x16b), (0x55, 0x306, 0x16c), (0x75, 0x306, 0x16d),
  (0x55, 0x30a, 0x16e), (0x75, 0x30a, 0x16f), (0x55, 0x30b, 0x170), (0x75, 0x30b, 0x171),
  (0x55, 0x328, 0x172), (0x75, 0x328, 0x173), (0x57, 0x302, 0x174), (0x77, 0x302, 0x175),
  (0x59, 0x302, 0x176), (0x79, 0x302, 0x177), (0x59, 0x308, 0x178), (0x5a, 0x301, 0x179),
  (0x7a, 0x301, 0x17a), (0x5a, 0x307, 0x17b), (0x7a, 0x307, 0x17c), (0x5a, 0x30c, 0x17d),
  (0x7a, 0x30c, 0x17e), (0x4f, 0x31b, 0x1a0), (0x6f, 0x31b, 0x1a1), (0x55, 0x31b, 0x1af),
  (0x75, 0x31b, 0x1b0), (0x41, 0x30c, 0x1cd), (0x61, 0x30c, 0x1ce), (0x49, 0x30c, 0x1cf),
  (0x69, 0x30c, 0x1d0), (0x4f, 0x30c, 0x1d1), (0x6f, 0x30c, 0x1d2), (0x55, 0x30c, 0x1d3),
  (0x75, 0x30c, 0x1d4), (0xdc, 0x304, 0x1d5), (0xfc, 0x304, 0x1d6), (0xdc, 0x301, 0x1d7),
  (0xfc, 0x301, 0x1d8), (0xdc, 0x30c, 0x1d9), (0xfc, 0x30c, 0x1da), (0xdc, 0x300, 0x1db),
  (0xfc, 0x300, 0x1dc), (0xc4, 0x304, 0x1de), (0xe4, 0x304, 0x1df), (0x226, 0x304, 0x1e0),
  (0x227, 0x304, 0x1e1), (0xc6, 0x304, 0x1e2), (0xe6, 0x304, 0x1e3), (0x47, 0x30c, 0x1e6),
  (0x67, 0x30c, 0x1e7), (0x4b, 0x30c, 0x1e8), (0x6b, 0x30c, 0x1e9), (0x4f, 0x328, 0x1ea),
  (0x6f, 0x328, 0x1eb), (0x1ea, 0x304, 0x1ec), (0x1eb, 0x304, 0x1ed), (0x1b7, 0x30c, 0x1ee),
  (0x292, 0x30c, 0x1ef), (0x6a, 0x30c, 0x1f0), (0x47, 0x301, 0x1f4), (0x67, 0x301, 0x1f5),
  (0x4e, 0x300, 0x1f8), (0x6e, 0x300, 0x1f9), (0xc5, 0x301, 0x1fa), (0xe5, 0x301, 0x1fb),
  (0xc6, 0x301, 0x1fc), (0xe6, 0x301, 0x1fd), (0xd8, 0x301, 0x1fe), (0xf8, 0x301, 0x1ff),
  (0x41, 0x30f, 0x200), (0x61, 0x30f, 0x201), (0x41, 0x311, 0x202), (0x61, 0x311, 0x203),
  (0x45, 0x30f, 0x204), (0x65, 0x30f, 0x205), (0x45, 0x311, 0x206), (0x65, 0x311, 0x207),
  (0x49, 0x30f, 0x208), (0x69, 0x30f, 0x209), (0x49, 0x311, 0x20a), (0x69, 0x311, 0x20b),
  (0x4f, 0x30f, 0x20c), (0x6f, 0x30f, 0x20d), (0x4f, 0x311, 0x20e), (0x6f, 0x311, 0x20f),
  (0x52, 0x30f, 0x210), (0x72, 0x30f, 0x211), (0x52, 0x311, 0x212), (0x72, 0x311, 0x213),
  (0x55, 0x30f, 0x214), (0x75, 0x30f, 0x215), (0x55, 0x311, 0x216), (0x75, 0x311, 0x217),
  (0x53, 0x326, 0x218), (0x73, 0x326, 0x219), (0x54, 0x326, 0x21a), (0x74, 0x326, 0x21b),
  (0x48, 0x30c, 0x21e), (0x68, 0x30c, 0x21f), (0x41, 0x307, 0x226), (0x61, 0x307, 0x227),
  (0x45, 0x327, 0x228), (0x65, 0x327, 0x229), (0xd6, 0x304, 0x22a), (0xf6, 0x304, 0x22b),
  (0xd5, 0x304, 0x22c), (0xf5, 0x304, 0x22d), (0x4f, 0x307, 0x22e), (0x6f, 0x307, 0x22f),
  (0x22e, 0x304, 0x230), (0x22f, 0x304, 0x231), (0x59, 0x304, 0x232), (0x79, 0x304, 0x233),
  (0xa8, 0x301, 0x385), (0x391, 0x301, 0x386), (0x395, 0x301, 0x388), (0x397, 0x301, 0x389),
  (0x399, 0x301, 0x38a), (0x39f, 0x301, 0x38c), (0x3a5, 0x301, 0x38e), (0x3a9, 0x301, 0x38f),
  (0x3ca, 0x301, 0x390), (0x399, 0x308, 0x3aa), (0x3a5, 0x308, 0x3ab), (0x3b1, 0x301, 0x3ac),
  (0x3b5, 0x301, 0x3ad), (0x3b7, 0x301, 0x3ae), (0x3b9, 0x301, 0x3af), (0x3cb, 0x301, 0x3b0),
  (0x3b9, 0x308, 0x3ca), (0x3c5, 0x308, 0x3cb), (0x3bf, 0x301, 0x3cc), (0x3c5, 0x301, 0x3cd),
  (0x3c9, 0x301, 0x3ce), (0x3d2, 0x301, 0x3d3), (0x3d2, 0x308, 0x3d4), (0x415, 0x300, 0x400),
  (0x415, 0x308, 0x401), (0x413, 0x301, 0x403), (0x406, 0x308, 0x407), (0x41a, 0x301, 0x40c),
  (0x418, 0x300, 0x40d), (0x423, 0x306, 0x40e), (0x418, 0x306, 0x419), (0x438, 0x306, 0x439),
  (0x435, 0x300, 0x450), (0x435, 0x308, 0x451), (0x433, 0x301, 0x453), (0x456, 0x308, 0x457),
  (0x43a, 0x301, 0x45c), (0x438, 0x300, 0x45d), (0x443, 0x306, 0x45e), (0x474, 0x30f, 0x476),
  (0x475, 0x30f, 0x477), (0x416, 0x306, 0x4c1), (0x436, 0x306, 0x4c2), (0x410, 0x306, 0x4d0),
  (0x430, 0x306, 0x4d1), (0x410, 0x308, 0x4d2), (0x430, 0x308, 0x4d3), (0x415, 0x306, 0x4d6),
  (0x435, 0x306, 0x4d7), (0x4d8, 0x308, 0x4da), (0x4d9, 0x308, 0x4db), (0x416, 0x308, 0x4dc),
  (0x436, 0x308, 0x4dd), (0x417, 0x308, 0x4de), (0x437, 0x308, 0x4df), (0x418, 0x304, 0x4e2),
  (0x438, 0x304, 0x4e3), (0x418, 0x308, 0x4e4), (0x438, 0x308, 0x4e5), (0x41e, 0x308, 0x4e6),
  (0x43e, 0x308, 0x4e7), (0x4e8, 0x308, 0x4ea), (0x4e9, 0x308, 0x4eb), (0x42d, 0x308, 0x4ec),
  (0x44d, 0x308, 0x4ed), (0x423, 0x304, 0x4ee), (0x443, 0x304, 0x4ef), (0x423, 0x308, 0x4f0),
  (0x443, 0x308, 0x4f1), (0x423, 0x30b, 0x4f2), (0x443, 0x30b, 0x4f3), (0x427, 0x308, 0x4f4),
  (0x447, 0x308, 0x4f5), (0x42b, 0x308, 0x4f8), (0x44b, 0x308, 0x4f9), (0x627, 0x653, 0x622),
  (0x627, 0x654, 0x623), (0x648, 0x654, 0x624), (0x627, 0x655, 0x625), (0x64a, 0x654, 0x626),
  (0x6d5, 0x654, 0x6c0), (0x6c1, 0x654, 0x6c2), (0x6d2, 0x654, 0x6d3), (0x928, 0x93c, 0x929),
  (0x930, 0x93c, 0x931), (0x933, 0x93c, 0x934), (0x9c7, 0x9be, 0x9cb), (0x9c7, 0x9d7, 0x9cc),
  (0xb47, 0xb56, 0xb48), (0xb47, 0xb3e, 0xb4b), (0xb47, 0xb57, 0xb4c), (0xb92, 0xbd7, 0xb94),
  (0xbc6, 0xbbe, 0xbca), (0xbc7, 0xbbe, 0xbcb), (0xbc6, 0xbd7, 0xbcc), (0xc46, 0xc56, 0xc48),
  (0xcbf, 0xcd5, 0xcc0), (0xcc6, 0xcd5, 0xcc7), (0xcc6, 0xcd6, 0xcc8), (0xcc6, 0xcc2, 0xcca),
  (0xcca, 0xcd5, 0xccb), (0xd46, 0xd3e, 0xd4a), (0xd47, 0xd3e, 0xd4b), (0xd46, 0xd57, 0xd4c),
  (0xdd9, 0xdca, 0xdda), (0xdd9, 0xdcf, 0xddc), (0xddc, 0xdca, 0xddd), (0xdd9, 0xddf, 0xdde),
  (0x1025, 0x102e, 0x1026), (0x1b05, 0x1b35, 0x1b06), (0x1b07, 0x1b35, 0x1b08),
  (0x1b09, 0x1b35, 0x1b0a), (0x1b0b, 0x1b35, 0x1b0c), (0x1b0d, 0x1b35, 0x1b0e),
  (0x1b11, 0x1b35, 0x1b12), (0x1b3a, 0x1b35, 0x1b3b), (0x1b3c, 0x1b35, 0x1b3d),
  (0x1b3e, 0x1b35, 0x1b40), (0x1b3f, 0x1b35, 0x1b41), (0x1b42, 0x1b35, 0x1b43),
  (0x41, 0x325, 0x1e00), (0x61, 0x325, 0x1e01), (0x42, 0x307, 0x1e02), (0x62, 0x307, 0x1e03),
  (0x42, 0x323, 0x1e04), (0x62, 0x323, 0x1e05), (0x42, 0x331, 0x1e06), (0x62, 0x331, 0x1e07),
  (0xc7, 0x301, 0x1e08), (0xe7, 0x301, 0x1e09), (0x44, 0x307, 0x1e0a), (0x64, 0x307, 0x1e0b),
  (0x44, 0x323, 0x1e0c), (0x64, 0x323, 0x1e0d), (0x44, 0x331, 0x1e0e), (0x64, 0x331, 0x1e0f),
  (0x44, 0x327, 0x1e10), (0x64, 0x327, 0x1e11), (0x44, 0x32d, 0x1e12), (0x64, 0x32d, 0x1e13),
  (0x112, 0x300, 0x1e14), (0x113, 0x300, 0x1e15), (0x112, 0x301, 0x1e16), (0x113, 0x301, 0x1e17),
  (0x45, 0x32d, 0x1e18), (0x65, 0x32d, 0x1e19), (0x45, 0x330, 0x1e1a), (0x65, 0x330, 0x1e1b),
  (0x228, 0x306, 0x1e1c), (0x229, 0x306, 0x1e1d), (0x46, 0x307, 0x1e1e), (0x66, 0x307, 0x1e1f),
  (0x47, 0x304, 0x1e20), (0x67, 0x304, 0x1e21), (0x48, 0x307, 0x1e22), (0x68, 0x307, 0x1e23),
  (0x48, 0x323, 0x1e24), (0x68, 0x323, 0x1e25), (0x48, 0x308, 0x1e26), (0x68, 0x308, 0x1e27),
  (0x48, 0x327, 0x1e28), (0x68, 0x327, 0x1e29), (0x48, 0x32e, 0x1e2a), (0x68, 0x32e, 0x1e2b),
  (0x49, 0x330, 0x1e2c), (0x69, 0x330, 0x1e2d), (0xcf, 0x301, 0x1e2e), (0xef, 0x301, 0x1e2f),
  (0x4b, 0x301, 0x1e30), (0x6b, 0x301, 0x1e31), (0x4b, 0x323, 0x1e32), (0x6b, 0x323, 0x1e33),
  (0x4b, 0x331, 0x1e34), (0x6b, 0x331, 0x1e35), (0x4c, 0x323, 0x1e36), (0x6c, 0x323, 0x1e37),
  (0x1e36, 0x304, 0x1e38), (0x1e37, 0x304, 0x1e39), (0x4c, 0x331, 0x1e3a), (0x6c, 0x331, 0x1e3b),
  (0x4c, 0x32d, 0x1e3c), (0x6c, 0x32d, 0x1e3d), (0x4d, 0x301, 0x1e3e), (0x6d, 0x301, 0x1e3f),
  (0x4d, 0x307, 0x1e40), (0x6d, 0x307, 0x1e41), (0x4d, 0x323, 0x1e42), (0x6d, 0x323, 0x1e43),
  (0x4e, 0x307, 0x1e44), (0x6e, 0x307, 0x1e45), (0x4e, 0x323, 0x1e46), (0x6e, 0x323, 0x1e47),
  (0x4e, 0x331, 0x1e48), (0x6e, 0x331, 0x1e49), (0x4e, 0x32d, 0x1e4a), (0x6e, 0x32d, 0x1e4b),
  (0xd5, 0x301, 0x1e4c), (0xf5, 0x301, 0x1e4d), (0xd5, 0x308, 0x1e4e), (0xf5, 0x308, 0x1e4f),
  (0x14c, 0x300, 0x1e50), (0x14d, 0x300, 0x1e51), (0x14c, 0x301, 0x1e52), (0x14d, 0x301, 0x1e53),
  (0x50, 0x301, 0x1e54), (0x70, 0x301, 0x1e55), (0x50, 0x307, 0x1e56), (0x70, 0x307, 0x1e57),
  (0x52, 0x307, 0x1e58), (0x72, 0x307, 0x1e59), (0x52, 0x323, 0x1e5a), (0x72, 0x323, 0x1e5b),
  (0x1e5a, 0x304, 0x1e5c), (0x1e5b, 0x304, 0x1e5d), (0x52, 0x331, 0x1e5e), (0x72, 0x331, 0x1e5f),
  (0x53, 0x307, 0x1e60), (0x73, 0x307, 0x1e61), (0x53, 0x323, 0x1e62), (0x73, 0x323, 0x1e63),
  (0x15a, 0x307, 0x1e64), (0x15b, 0x307, 0x1e65), (0x160, 0x307, 0x1e66), (0x161, 0x307, 0x1e67),
  (0x1e62, 0x307, 0x1e68), (0x1e63, 0x307, 0x1e69), (0x54, 0x307, 0x1e6a), (0x74, 0x307, 0x1e6b),
  (0x54, 0x323, 0x1e6c), (0x74, 0x323, 0x1e6d), (0x54, 0x331, 0x1e6e), (0x74, 0x331, 0x1e6f),
  (0x54, 0x32d, 0x1e70), (0x74, 0x32d, 0x1e71), (0x55, 0x324, 0x1e72), (0x75, 0x324, 0x1e73),
  (0x55, 0x330, 0x1e74), (0x75, 0x330, 0x1e75), (0x55, 0x32d, 0x1e76), (0x75, 0x32d, 0x1e77),
  (0x168, 0x301, 0x1e78), (0x169, 0x301, 0x1e79), (0x16a, 0x308, 0x1e7a), (0x16b, 0x308, 0x1e7b),
  (0x56, 0x303, 0x1e7c), (0x76, 0x303, 0x1e7d), (0x56, 0x323, 0x1e7e), (0x76, 0x323, 0x1e7f),
  (0x57, 0x300, 0x1e80), (0x77, 0x300, 0x1e81), (0x57, 0x301, 0x1e82), (0x77, 0x301, 0x1e83),
  (0x57, 0x308, 0x1e84), (0x77, 0x308, 0x1e85), (0x57, 0x307, 0x1e86), (0x77, 0x307, 0x1e87),
  (0x57, 0x323, 0x1e88), (0x77, 0x323, 0x1e89), (0x58, 0x307, 0x1e8a), (0x78, 0x307, 0x1e8b),
  (0x58, 0x308, 0x1e8c), (0x78, 0x308, 0x1e8d), (0x59, 0x307, 0x1e8e), (0x79, 0x307, 0x1e8f),
  (0x5a, 0x302, 0x1e90), (0x7a, 0x302, 0x1e91), (0x5a, 0x323, 0x1e92), (0x7a, 0x323, 0x1e93),
  (0x5a, 0x331, 0x1e94), (0x7a, 0x331, 0x1e95), (0x68, 0x331, 0x1e96), (0x74, 0x308, 0x1e97),
  (0x77, 0x30a, 0x1e98), (0x79, 0x30a, 0x1e99), (0x17f, 0x307, 0x1e9b), (0x41, 0x323, 0x1ea0),
  (0x61, 0x323, 0x1ea1), (0x41, 0x309, 0x1ea2), (0x61, 0x309, 0x1ea3), (0xc2, 0x301, 0x1ea4),
  (0xe2, 0x301, 0x1ea5), (0xc2, 0x300, 0x1ea6), (0xe2, 0x300, 0x1ea7), (0xc2, 0x309, 0x1ea8),
  (0xe2, 0x309, 0x1ea9), (0xc2, 0x303, 0x1eaa), (0xe2, 0x303, 0x1eab), (0x1ea0, 0x302, 0x1eac),
  (0x1ea1, 0x302, 0x1ead), (0x102, 0x301, 0x1eae), (0x103, 0x301, 0x1eaf),
  (0x102, 0x300, 0x1eb0), (0x103, 0x300, 0x1eb1), (0x102, 0x309, 0x1eb2), (0x103, 0x309, 0x1eb3),
  (0x102, 0x303, 0x1eb4), (0x103, 0x303, 0x1eb5), (0x1ea0, 0x306, 0x1eb6),
  (0x1ea1, 0x306, 0x1eb7), (0x45, 0x323, 0x1eb8), (0x65, 0x323, 0x1eb9), (0x45, 0x309, 0x1eba),
  (0x65, 0x309, 0x1ebb), (0x45, 0x303, 0x1ebc), (0x65, 0x303, 0x1ebd), (0xca, 0x301, 0x1ebe),
  (0xea, 0x301, 0x1ebf), (0xca, 0x300, 0x1ec0), (0xea, 0x300, 0x1ec1), (0xca, 0x309, 0x1ec2),
  (0xea, 0x309, 0x1ec3), (0xca, 0x303, 0x1ec4), (0xea, 0x303, 0x1ec5), (0x1eb8, 0x302, 0x1ec6),
  (0x1eb9, 0x302, 0x1ec7), (0x49, 0x309, 0x1ec8), (0x69, 0x309, 0x1ec9), (0x49, 0x323, 0x1eca),
  (0x69, 0x323, 0x1ecb), (0x4f, 0x323, 0x1ecc), (0x6f, 0x323, 0x1ecd), (0x4f, 0x309, 0x1ece),
  (0x6f, 0x309, 0x1ecf), (0xd4, 0x301, 0x1ed0), (0xf4, 0x301, 0x1ed1), (0xd4, 0x300, 0x1ed2),
  (0xf4, 0x300, 0x1ed3), (0xd4, 0x309, 0x1ed4), (0xf4, 0x309, 0x1ed5), (0xd4, 0x303, 0x1ed6),
  (0xf4, 0x303, 0x1ed7), (0x1ecc, 0x302, 0x1ed8), (0x1ecd, 0x302, 0x1ed9),
  (0x1a0, 0x301, 0x1eda), (0x1a1, 0x301, 0x1edb), (0x1a0, 0x300, 0x1edc), (0x1a1, 0x300, 0x1edd),
  (0x1a0, 0x309, 0x1ede), (0x1a1, 0x309, 0x1edf), (0x1a0, 0x303, 0x1ee0), (0x1a1, 0x303, 0x1ee1),
  (0x1a0, 0x323, 0x1ee2), (0x1a1, 0x323, 0x1ee3), (0x55, 0x323, 0x1ee4), (0x75, 0x323, 0x1ee5),
  (0x55, 0x309, 0x1ee6), (0x75, 0x309, 0x1ee7), (0x1af, 0x301, 0x1ee8), (0x1b0, 0x301, 0x1ee9),
  (0x1af, 0x300, 0x1eea), (0x1b0, 0x300, 0x1eeb), (0x1af, 0x309, 0x1eec), (0x1b0, 0x309, 0x1eed),
  (0x1af, 0x303, 0x1eee), (0x1b0, 0x303, 0x1eef), (0x1af, 0x323, 0x1ef0), (0x1b0, 0x323, 0x1ef1),
  (0x59, 0x300, 0x1ef2), (0x79, 0x300, 0x1ef3), (0x59, 0x323, 0x1ef4), (0x79, 0x323, 0x1ef5),
  (0x59, 0x309, 0x1ef6), (0x79, 0x309, 0x1ef7), (0x59, 0x303, 0x1ef8), (0x79, 0x303, 0x1ef9),
  (0x3b1, 0x313, 0x1f00), (0x3b1, 0x314, 0x1f01), (0x1f00, 0x300, 0x1f02),
  (0x1f01, 0x300, 0x1f03), (0x1f00, 0x301, 0x1f04), (0x1f01, 0x301, 0x1f05),
  (0x1f00, 0x342, 0x1f06), (0x1f01, 0x342, 0x1f07), (0x391, 0x313, 0x1f08),
  (0x391, 0x314, 0x1f09), (0x1f08, 0x300, 0x1f0a), (0x1f09, 0x300, 0x1f0b),
  (0x1f08, 0x301, 0x1f0c), (0x1f09, 0x301, 0x1f0d), (0x1f08, 0x342, 0x1f0e),
  (0x1f09, 0x342, 0x1f0f), (0x3b5, 0x313, 0x1f10), (0x3b5, 0x314, 0x1f11),
  (0x1f10, 0x300, 0x1f12), (0x1f11, 0x300, 0x1f13), (0x1f10, 0x301, 0x1f14),
  (0x1f11, 0x301, 0x1f15), (0x395, 0x313, 0x1f18), (0x395, 0x314, 0x1f19),
  (0x1f18, 0x300, 0x1f1a), (0x1f19, 0x300, 0x1f1b), (0x1f18, 0x301, 0x1f1c),
  (0x1f19, 0x301, 0x1f1d), (0x3b7, 0x313, 0x1f20), (0x3b7, 0x314, 0x1f21),
  (0x1f20, 0x300, 0x1f22), (0x1f21, 0x300, 0x1f23), (0x1f20, 0x301, 0x1f24),
  (0x1f21, 0x301, 0x1f25), (0x1f20, 0x342, 0x1f26), (0x1f21, 0x342, 0x1f27),
  (0x397, 0x313, 0x1f28), (0x397, 0x314, 0x1f29), (0x1f28, 0x300, 0x1f2a),
  (0x1f29, 0x300, 0x1f2b), (0x1f28, 0x301, 0x1f2c), (0x1f29, 0x301, 0x1f2d),
  (0x1f28, 0x342, 0x1f2e), (0x1f29, 0x342, 0x1f2f), (0x3b9, 0x313, 0x1f30),
  (0x3b9, 0x314, 0x1f31), (0x1f30, 0x300, 0x1f32), (0x1f31, 0x300, 0x1f33),
  (0x1f30, 0x301, 0x1f34), (0x1f31, 0x301, 0x1f35), (0x1f30, 0x342, 0x1f36),
  (0x1f31, 0x342, 0x1f37), (0x399, 0x313, 0x1f38), (0x399, 0x314, 0x1f39),
  (0x1f38, 0x300, 0x1f3a), (0x1f39, 0x300, 0x1f3b), (0x1f38, 0x301, 0x1f3c),
  (0x1f39, 0x301, 0x1f3d), (0x1f38, 0x342, 0x1f3e), (0x1f39, 0x342, 0x1f3f),
  (0x3bf, 0x313, 0x1f40), (0x3bf, 0x314, 0x1f41), (0x1f40, 0x300, 0x1f42),
  (0x1f41, 0x300, 0x1f43), (0x1f40, 0x301, 0x1f44), (0x1f41, 0x301, 0x1f45),
  (0x39f, 0x313, 0x1f48), (0x39f, 0x314, 0x1f49), (0x1f48, 0x300, 0x1f4a),
  (0x1f49, 0x300, 0x1f4b), (0x1f48, 0x301, 0x1f4c), (0x1f49, 0x301, 0x1f4d),
  (0x3c5, 0x313, 0x1f50), (0x3c5, 0x314, 0x1f51), (0x1f50, 0x300, 0x1f52),
  (0x1f51, 0x300, 0x1f53), (0x1f50, 0x301, 0x1f54), (0x1f51, 0x301, 0x1f55),
  (0x1f50, 0x342, 0x1f56), (0x1f51, 0x342, 0x1f57), (0x3a5, 0x314, 0x1f59),
  (0x1f59, 0x300, 0x1f5b), (0x1f59, 0x301, 0x1f5d), (0x1f59, 0x342, 0x1f5f),
  (0x3c9, 0x313, 0x1f60), (0x3c9, 0x314, 0x1f61), (0x1f60, 0x300, 0x1f62),
  (0x1f61, 0x300, 0x1f63), (0x1f60, 0x301, 0x1f64), (0x1f61, 0x301, 0x1f65),
  (0x1f60, 0x342, 0x1f66), (0x1f61, 0x342, 0x1f67), (0x3a9, 0x313, 0x1f68),
  (0x3a9, 0x314, 0x1f69), (0x1f68, 0x300, 0x1f6a), (0x1f69, 0x300, 0x1f6b),
  (0x1f68, 0x301, 0x1f6c), (0x1f69, 0x301, 0x1f6d), (0x1f68, 0x342, 0x1f6e),
  (0x1f69, 0x342, 0x1f6f), (0x3b1, 0x300, 0x1f70), (0x3b5, 0x300, 0x1f72),
  (0x3b7, 0x300, 0x1f74), (0x3b9, 0x300, 0x1f76), (0x3bf, 0x300, 0x1f78), (0x3c5, 0x300, 0x1f7a),
  (0x3c9, 0x300, 0x1f7c), (0x1f00, 0x345, 0x1f80), (0x1f01, 0x345, 0x1f81),
  (0x1f02, 0x345, 0x1f82), (0x1f03, 0x345, 0x1f83), (0x1f04, 0x345, 0x1f84),
  (0x1f05, 0x345, 0x1f85), (0x1f06, 0x345, 0x1f86), (0x1f07, 0x345, 0x1f87),
  (0x1f08, 0x345, 0x1f88), (0x1f09, 0x345, 0x1f89), (0x1f0a, 0x345, 0x1f8a),
  (0x1f0b, 0x345, 0x1f8b), (0x1f0c, 0x345, 0x1f8c), (0x1f0d, 0x345, 0x1f8d),
  (0x1f0e, 0x345, 0x1f8e), (0x1f0f, 0x345, 0x1f8f), (0x1f20, 0x345, 0x1f90),
  (0x1f21, 0x345, 0x1f91), (0x1f22, 0x345, 0x1f92), (0x1f23, 0x345, 0x1f93),
  (0x1f24, 0x345, 0x1f94), (0x1f25, 0x345, 0x1f95), (0x1f26, 0x345, 0x1f96),
  (0x1f27, 0x345, 0x1f97), (0x1f28, 0x345, 0x1f98), (0x1f29, 0x345, 0x1f99),
  (0x1f2a, 0x345, 0x1f9a), (0x1f2b, 0x345, 0x1f9b), (0x1f2c, 0x345, 0x1f9c),
  (0x1f2d, 0x345, 0x1f9d), (0x1f2e, 0x345, 0x1f9e), (0x1f2f, 0x345, 0x1f9f),
  (0x1f60, 0x345, 0x1fa0), (0x1f61, 0x345, 0x1fa1), (0x1f62, 0x345, 0x1fa2),
  (0x1f63, 0x345, 0x1fa3), (0x1f64, 0x345, 0x1fa4), (0x1f65, 0x345, 0x1fa5),
  (0x1f66, 0x345, 0x1fa6), (0x1f67, 0x345, 0x1fa7), (0x1f68, 0x345, 0x1fa8),
  (0x1f69, 0x345, 0x1fa9), (0x1f6a, 0x345, 0x1faa), (0x1f6b, 0x345, 0x1fab),
  (0x1f6c, 0x345, 0x1fac), (0x1f6d, 0x345, 0x1fad), (0x1f6e, 0x345, 0x1fae),
  (0x1f6f, 0x345, 0x1faf), (0x3b1, 0x306, 0x1fb0), (0x3b1, 0x304, 0x1fb1),
  (0x1f70, 0x345, 0x1fb2), (0x3b1, 0x345, 0x1fb3), (0x3ac, 0x345, 0x1fb4),
  (0x3b1, 0x342, 0x1fb6), (0x1fb6, 0x345, 0x1fb7), (0x391, 0x306, 0x1fb8),
  (0x391, 0x304, 0x1fb9), (0x391, 0x300, 0x1fba), (0x391, 0x345, 0x1fbc), (0xa8, 0x342, 0x1fc1),
  (0x1f74, 0x345, 0x1fc2), (0x3b7, 0x345, 0x1fc3), (0x3ae, 0x345, 0x1fc4),
  (0x3b7, 0x342, 0x1fc6), (0x1fc6, 0x345, 0x1fc7), (0x395, 0x300, 0x1fc8),
  (0x397, 0x300, 0x1fca), (0x397, 0x345, 0x1fcc), (0x1fbf, 0x300, 0x1fcd),
  (0x1fbf, 0x301, 0x1fce), (0x1fbf, 0x342, 0x1fcf), (0x3b9, 0x306, 0x1fd0),
  (0x3b9, 0x304, 0x1fd1), (0x3ca, 0x300, 0x1fd2), (0x3b9, 0x342, 0x1fd6), (0x3ca, 0x342, 0x1fd7),
  (0x399, 0x306, 0x1fd8), (0x399, 0x304, 0x1fd9), (0x399, 0x300, 0x1fda),
  (0x1ffe, 0x300, 0x1fdd), (0x1ffe, 0x301, 0x1fde), (0x1ffe, 0x342, 0x1fdf),
  (0x3c5, 0x306, 0x1fe0), (0x3c5, 0x304, 0x1fe1), (0x3cb, 0x300, 0x1fe2), (0x3c1, 0x313, 0x1fe4),
  (0x3c1, 0x314, 0x1fe5), (0x3c5, 0x342, 0x1fe6), (0x3cb, 0x342, 0x1fe7), (0x3a5, 0x306, 0x1fe8),
  (0x3a5, 0x304, 0x1fe9), (0x3a5, 0x300, 0x1fea), (0x3a1, 0x314, 0x1fec), (0xa8, 0x300, 0x1fed),
  (0x1f7c, 0x345, 0x1ff2), (0x3c9, 0x345, 0x1ff3), (0x3ce, 0x345, 0x1ff4),
  (0x3c9, 0x342, 0x1ff6), (0x1ff6, 0x345, 0x1ff7), (0x39f, 0x300, 0x1ff8),
  (0x3a9, 0x300, 0x1ffa), (0x3a9, 0x345, 0x1ffc), (0x2190, 0x338, 0x219a),
  (0x2192, 0x338, 0x219b), (0x2194, 0x338, 0x21ae), (0x21d0, 0x338, 0x21cd),
  (0x21d4, 0x338, 0x21ce), (0x21d2, 0x338, 0x21cf), (0x2203, 0x338, 0x2204),
  (0x2208, 0x338, 0x2209), (0x220b, 0x338, 0x220c), (0x2223, 0x338, 0x2224),
  (0x2225, 0x338, 0x2226), (0x223c, 0x338, 0x2241), (0x2243, 0x338, 0x2244),
  (0x2245, 0x338, 0x2247), (0x2248, 0x338, 0x2249), (0x3d, 0x338, 0x2260),
  (0x2261, 0x338, 0x2262), (0x224d, 0x338, 0x226d), (0x3c, 0x338, 0x226e), (0x3e, 0x338, 0x226f),
  (0x2264, 0x338, 0x2270), (0x2265, 0x338, 0x2271), (0x2272, 0x338, 0x2274),
  (0x2273, 0x338, 0x2275), (0x2276, 0x338, 0x2278), (0x2277, 0x338, 0x2279),
  (0x227a, 0x338, 0x2280), (0x227b, 0x338, 0x2281), (0x2282, 0x338, 0x2284),
  (0x2283, 0x338, 0x2285), (0x2286, 0x338, 0x2288), (0x2287, 0x338, 0x2289),
  (0x22a2, 0x338, 0x22ac), (0x22a8, 0x338, 0x22ad), (0x22a9, 0x338, 0x22ae),
  (0x22ab, 0x338, 0x22af), (0x227c, 0x338, 0x22e0), (0x227d, 0x338, 0x22e1),
  (0x2291, 0x338, 0x22e2), (0x2292, 0x338, 0x22e3), (0x22b2, 0x338, 0x22ea),
  (0x22b3, 0x338, 0x22eb), (0x22b4, 0x338, 0x22ec), (0x22b5, 0x338, 0x22ed),
  (0x304b, 0x3099, 0x304c), (0x304d, 0x3099, 0x304e), (0x304f, 0x3099, 0x3050),
  (0x3051, 0x3099, 0x3052), (0x3053, 0x3099, 0x3054), (0x3055, 0x3099, 0x3056),
  (0x3057, 0x3099, 0x3058), (0x3059, 0x3099, 0x305a), (0x305b, 0x3099, 0x305c),
  (0x305d, 0x3099, 0x305e), (0x305f, 0x3099, 0x3060), (0x3061, 0x3099, 0x3062),
  (0x3064, 0x3099, 0x3065), (0x3066, 0x3099, 0x3067), (0x3068, 0x3099, 0x3069),
  (0x306f, 0x3099, 0x3070), (0x306f, 0x309a, 0x3071), (0x3072, 0x3099, 0x3073),
  (0x3072, 0x309a, 0x3074), (0x3075, 0x3099, 0x3076), (0x3075, 0x309a, 0x3077),
  (0x3078, 0x3099, 0x3079), (0x3078, 0x309a, 0x307a), (0x307b, 0x3099, 0x307c),
  (0x307b, 0x309a, 0x307d), (0x3046, 0x3099, 0x3094), (0x309d, 0x3099, 0x309e),
  (0x30ab, 0x3099, 0x30ac), (0x30ad, 0x3099, 0x30ae), (0x30af, 0x3099, 0x30b0),
  (0x30b1, 0x3099, 0x30b2), (0x30b3, 0x3099, 0x30b4), (0x30b5, 0x3099, 0x30b6),
  (0x30b7, 0x3099, 0x30b8), (0x30b9, 0x3099, 0x30ba), (0x30bb, 0x3099, 0x30bc),
  (0x30bd, 0x3099, 0x30be), (0x30bf, 0x3099, 0x30c0), (0x30c1, 0x3099, 0x30c2),
  (0x30c4, 0x3099, 0x30c5), (0x30c6, 0x3099, 0x30c7), (0x30c8, 0x3099, 0x30c9),
  (0x30cf, 0x3099, 0x30d0), (0x30cf, 0x309a, 0x30d1), (0x30d2, 0x3099, 0x30d3),
  (0x30d2, 0x309a, 0x30d4), (0x30d5, 0x3099, 0x30d6), (0x30d5, 0x309a, 0x30d7),
  (0x30d8, 0x3099, 0x30d9), (0x30d8, 0x309a, 0x30da), (0x30db, 0x3099, 0x30dc),
  (0x30db, 0x309a, 0x30dd), (0x30a6, 0x3099, 0x30f4), (0x30ef, 0x3099, 0x30f7),
  (0x30f0, 0x3099, 0x30f8), (0x30f1, 0x3099, 0x30f9), (0x30f2, 0x3099, 0x30fa),
  (0x30fd, 0x3099, 0x30fe), (0x105d2, 0x307, 0x105c9), (0x105da, 0x307, 0x105e4),
  (0x11099, 0x110ba, 0x1109a), (0x1109b, 0x110ba, 0x1109c), (0x110a5, 0x110ba, 0x110ab),
  (0x11131, 0x11127, 0x1112e), (0x11132, 0x11127, 0x1112f), (0x11347, 0x1133e, 0x1134b),
  (0x11347, 0x11357, 0x1134c), (0x11382, 0x113c9, 0x11383), (0x11384, 0x113bb, 0x11385),
  (0x1138b, 0x113c2, 0x1138e), (0x11390, 0x113c9, 0x11391), (0x113c2, 0x113c2, 0x113c5),
  (0x113c2, 0x113b8, 0x113c7), (0x113c2, 0x113c9, 0x113c8), (0x114b9, 0x114ba, 0x114bb),
  (0x114b9, 0x114b0, 0x114bc), (0x114b9, 0x114bd, 0x114be), (0x115b8, 0x115af, 0x115ba),
  (0x115b9, 0x115af, 0x115bb), (0x11935, 0x11930, 0x11938), (0x1611e, 0x1611e, 0x16121),
  (0x1611e, 0x16129, 0x16122), (0x1611e, 0x1611f, 0x16123), (0x16129, 0x1611f, 0x16124),
  (0x1611e, 0x16120, 0x16125), (0x16121, 0x1611f, 0x16126), (0x16122, 0x1611f, 0x16127),
  (0x16121, 0x16120, 0x16128), (0x16d67, 0x16d67, 0x16d68), (0x16d63, 0x16d67, 0x16d69),
  (0x16d69, 0x16d67, 0x16d6a)]

/-- Characters that stand for several and are not composed again. -/
def expansions : List (Nat × List Nat) := [
  (0x344, [0x308, 0x301]), (0x958, [0x915, 0x93c]), (0x959, [0x916, 0x93c]),
  (0x95a, [0x917, 0x93c]), (0x95b, [0x91c, 0x93c]), (0x95c, [0x921, 0x93c]),
  (0x95d, [0x922, 0x93c]), (0x95e, [0x92b, 0x93c]), (0x95f, [0x92f, 0x93c]),
  (0x9dc, [0x9a1, 0x9bc]), (0x9dd, [0x9a2, 0x9bc]), (0x9df, [0x9af, 0x9bc]),
  (0xa33, [0xa32, 0xa3c]), (0xa36, [0xa38, 0xa3c]), (0xa59, [0xa16, 0xa3c]),
  (0xa5a, [0xa17, 0xa3c]), (0xa5b, [0xa1c, 0xa3c]), (0xa5e, [0xa2b, 0xa3c]),
  (0xb5c, [0xb21, 0xb3c]), (0xb5d, [0xb22, 0xb3c]), (0xf43, [0xf42, 0xfb7]),
  (0xf4d, [0xf4c, 0xfb7]), (0xf52, [0xf51, 0xfb7]), (0xf57, [0xf56, 0xfb7]),
  (0xf5c, [0xf5b, 0xfb7]), (0xf69, [0xf40, 0xfb5]), (0xf73, [0xf71, 0xf72]),
  (0xf75, [0xf71, 0xf74]), (0xf76, [0xfb2, 0xf80]), (0xf78, [0xfb3, 0xf80]),
  (0xf81, [0xf71, 0xf80]), (0xf93, [0xf92, 0xfb7]), (0xf9d, [0xf9c, 0xfb7]),
  (0xfa2, [0xfa1, 0xfb7]), (0xfa7, [0xfa6, 0xfb7]), (0xfac, [0xfab, 0xfb7]),
  (0xfb9, [0xf90, 0xfb5]), (0x1f71, [0x3b1, 0x301]), (0x1f73, [0x3b5, 0x301]),
  (0x1f75, [0x3b7, 0x301]), (0x1f77, [0x3b9, 0x301]), (0x1f79, [0x3bf, 0x301]),
  (0x1f7b, [0x3c5, 0x301]), (0x1f7d, [0x3c9, 0x301]), (0x1fbb, [0x391, 0x301]),
  (0x1fc9, [0x395, 0x301]), (0x1fcb, [0x397, 0x301]), (0x1fd3, [0x3b9, 0x308, 0x301]),
  (0x1fdb, [0x399, 0x301]), (0x1fe3, [0x3c5, 0x308, 0x301]), (0x1feb, [0x3a5, 0x301]),
  (0x1fee, [0xa8, 0x301]), (0x1ff9, [0x39f, 0x301]), (0x1ffb, [0x3a9, 0x301]),
  (0x212b, [0x41, 0x30a]), (0x2adc, [0x2add, 0x338]), (0xfb1d, [0x5d9, 0x5b4]),
  (0xfb1f, [0x5f2, 0x5b7]), (0xfb2a, [0x5e9, 0x5c1]), (0xfb2b, [0x5e9, 0x5c2]),
  (0xfb2c, [0x5e9, 0x5bc, 0x5c1]), (0xfb2d, [0x5e9, 0x5bc, 0x5c2]), (0xfb2e, [0x5d0, 0x5b7]),
  (0xfb2f, [0x5d0, 0x5b8]), (0xfb30, [0x5d0, 0x5bc]), (0xfb31, [0x5d1, 0x5bc]),
  (0xfb32, [0x5d2, 0x5bc]), (0xfb33, [0x5d3, 0x5bc]), (0xfb34, [0x5d4, 0x5bc]),
  (0xfb35, [0x5d5, 0x5bc]), (0xfb36, [0x5d6, 0x5bc]), (0xfb38, [0x5d8, 0x5bc]),
  (0xfb39, [0x5d9, 0x5bc]), (0xfb3a, [0x5da, 0x5bc]), (0xfb3b, [0x5db, 0x5bc]),
  (0xfb3c, [0x5dc, 0x5bc]), (0xfb3e, [0x5de, 0x5bc]), (0xfb40, [0x5e0, 0x5bc]),
  (0xfb41, [0x5e1, 0x5bc]), (0xfb43, [0x5e3, 0x5bc]), (0xfb44, [0x5e4, 0x5bc]),
  (0xfb46, [0x5e6, 0x5bc]), (0xfb47, [0x5e7, 0x5bc]), (0xfb48, [0x5e8, 0x5bc]),
  (0xfb49, [0x5e9, 0x5bc]), (0xfb4a, [0x5ea, 0x5bc]), (0xfb4b, [0x5d5, 0x5b9]),
  (0xfb4c, [0x5d1, 0x5bf]), (0xfb4d, [0x5db, 0x5bf]), (0xfb4e, [0x5e4, 0x5bf]),
  (0x1d15e, [0x1d157, 0x1d165]), (0x1d15f, [0x1d158, 0x1d165]),
  (0x1d160, [0x1d158, 0x1d165, 0x1d16e]), (0x1d161, [0x1d158, 0x1d165, 0x1d16f]),
  (0x1d162, [0x1d158, 0x1d165, 0x1d170]), (0x1d163, [0x1d158, 0x1d165, 0x1d171]),
  (0x1d164, [0x1d158, 0x1d165, 0x1d172]), (0x1d1bb, [0x1d1b9, 0x1d165]),
  (0x1d1bc, [0x1d1ba, 0x1d165]), (0x1d1bd, [0x1d1b9, 0x1d165, 0x1d16e]),
  (0x1d1be, [0x1d1ba, 0x1d165, 0x1d16e]), (0x1d1bf, [0x1d1b9, 0x1d165, 0x1d16f]),
  (0x1d1c0, [0x1d1ba, 0x1d165, 0x1d16f])]

/-- Consecutive characters that each stand for a single other one: the first of them, and what they
stand for. -/
def replacements : List (Nat × List Nat) := [
  (0x340, [0x300, 0x301]),
  (0x343, [0x313]),
  (0x374, [0x2b9]),
  (0x37e, [0x3b]),
  (0x387, [0xb7]),
  (0x1fbe, [0x3b9]),
  (0x1fef, [0x60]),
  (0x1ffd, [0xb4]),
  (0x2000, [0x2002, 0x2003]),
  (0x2126, [0x3a9]),
  (0x212a, [0x4b]),
  (0x2329, [0x3008, 0x3009]),
  (0xf900, [
    0x8c48, 0x66f4, 0x8eca, 0x8cc8, 0x6ed1, 0x4e32, 0x53e5, 0x9f9c, 0x9f9c, 0x5951, 0x91d1,
    0x5587, 0x5948, 0x61f6, 0x7669, 0x7f85, 0x863f, 0x87ba, 0x88f8, 0x908f, 0x6a02, 0x6d1b,
    0x70d9, 0x73de, 0x843d, 0x916a, 0x99f1, 0x4e82, 0x5375, 0x6b04, 0x721b, 0x862d, 0x9e1e,
    0x5d50, 0x6feb, 0x85cd, 0x8964, 0x62c9, 0x81d8, 0x881f, 0x5eca, 0x6717, 0x6d6a, 0x72fc,
    0x90ce, 0x4f86, 0x51b7, 0x52de, 0x64c4, 0x6ad3, 0x7210, 0x76e7, 0x8001, 0x8606, 0x865c,
    0x8def, 0x9732, 0x9b6f, 0x9dfa, 0x788c, 0x797f, 0x7da0, 0x83c9, 0x9304, 0x9e7f, 0x8ad6,
    0x58df, 0x5f04, 0x7c60, 0x807e, 0x7262, 0x78ca, 0x8cc2, 0x96f7, 0x58d8, 0x5c62, 0x6a13,
    0x6dda, 0x6f0f, 0x7d2f, 0x7e37, 0x964b, 0x52d2, 0x808b, 0x51dc, 0x51cc, 0x7a1c, 0x7dbe,
    0x83f1, 0x9675, 0x8b80, 0x62cf, 0x6a02, 0x8afe, 0x4e39, 0x5be7, 0x6012, 0x7387, 0x7570,
    0x5317, 0x78fb, 0x4fbf, 0x5fa9, 0x4e0d, 0x6ccc, 0x6578, 0x7d22, 0x53c3, 0x585e, 0x7701,
    0x8449, 0x8aaa, 0x6bba, 0x8fb0, 0x6c88, 0x62fe, 0x82e5, 0x63a0, 0x7565, 0x4eae, 0x5169,
    0x51c9, 0x6881, 0x7ce7, 0x826f, 0x8ad2, 0x91cf, 0x52f5, 0x5442, 0x5973, 0x5eec, 0x65c5,
    0x6ffe, 0x792a, 0x95ad, 0x9a6a, 0x9e97, 0x9ece, 0x529b, 0x66c6, 0x6b77, 0x8f62, 0x5e74,
    0x6190, 0x6200, 0x649a, 0x6f23, 0x7149, 0x7489, 0x79ca, 0x7df4, 0x806f, 0x8f26, 0x84ee,
    0x9023, 0x934a, 0x5217, 0x52a3, 0x54bd, 0x70c8, 0x88c2, 0x8aaa, 0x5ec9, 0x5ff5, 0x637b,
    0x6bae, 0x7c3e, 0x7375, 0x4ee4, 0x56f9, 0x5be7, 0x5dba, 0x601c, 0x73b2, 0x7469, 0x7f9a,
    0x8046, 0x9234, 0x96f6, 0x9748, 0x9818, 0x4f8b, 0x79ae, 0x91b4, 0x96b8, 0x60e1, 0x4e86,
    0x50da, 0x5bee, 0x5c3f, 0x6599, 0x6a02, 0x71ce, 0x7642, 0x84fc, 0x907c, 0x9f8d, 0x6688,
    0x962e, 0x5289, 0x677b, 0x67f3, 0x6d41, 0x6e9c, 0x7409, 0x7559, 0x786b, 0x7d10, 0x985e,
    0x516d, 0x622e, 0x9678, 0x502b, 0x5d19, 0x6dea, 0x8f2a, 0x5f8b, 0x6144, 0x6817, 0x7387,
    0x9686, 0x5229, 0x540f, 0x5c65, 0x6613, 0x674e, 0x68a8, 0x6ce5, 0x7406, 0x75e2, 0x7f79,
    0x88cf, 0x88e1, 0x91cc, 0x96e2, 0x533f, 0x6eba, 0x541d, 0x71d0, 0x7498, 0x85fa, 0x96a3,
    0x9c57, 0x9e9f, 0x6797, 0x6dcb, 0x81e8, 0x7acb, 0x7b20, 0x7c92, 0x72c0, 0x7099, 0x8b58,
    0x4ec0, 0x8336, 0x523a, 0x5207, 0x5ea6, 0x62d3, 0x7cd6, 0x5b85, 0x6d1e, 0x66b4, 0x8f3b,
    0x884c, 0x964d, 0x898b, 0x5ed3, 0x5140, 0x55c0]),
  (0xfa10, [0x585a]),
  (0xfa12, [0x6674]),
  (0xfa15, [
    0x51de, 0x732a, 0x76ca, 0x793c, 0x795e, 0x7965, 0x798f, 0x9756, 0x7cbe, 0x7fbd]),
  (0xfa20, [0x8612]),
  (0xfa22, [0x8af8]),
  (0xfa25, [0x9038, 0x90fd]),
  (0xfa2a, [
    0x98ef, 0x98fc, 0x9928, 0x9db4, 0x90de, 0x96b7, 0x4fae, 0x50e7, 0x514d, 0x52c9, 0x52e4,
    0x5351, 0x559d, 0x5606, 0x5668, 0x5840, 0x58a8, 0x5c64, 0x5c6e, 0x6094, 0x6168, 0x618e,
    0x61f2, 0x654f, 0x65e2, 0x6691, 0x6885, 0x6d77, 0x6e1a, 0x6f22, 0x716e, 0x722b, 0x7422,
    0x7891, 0x793e, 0x7949, 0x7948, 0x7950, 0x7956, 0x795d, 0x798d, 0x798e, 0x7a40, 0x7a81,
    0x7bc0, 0x7df4, 0x7e09, 0x7e41, 0x7f72, 0x8005, 0x81ed, 0x8279, 0x8279, 0x8457, 0x8910,
    0x8996, 0x8b01, 0x8b39, 0x8cd3, 0x8d08, 0x8fb6, 0x9038, 0x96e3, 0x97ff, 0x983b, 0x6075,
    0x242ee, 0x8218]),
  (0xfa70, [
    0x4e26, 0x51b5, 0x5168, 0x4f80, 0x5145, 0x5180, 0x52c7, 0x52fa, 0x559d, 0x5555, 0x5599,
    0x55e2, 0x585a, 0x58b3, 0x5944, 0x5954, 0x5a62, 0x5b28, 0x5ed2, 0x5ed9, 0x5f69, 0x5fad,
    0x60d8, 0x614e, 0x6108, 0x618e, 0x6160, 0x61f2, 0x6234, 0x63c4, 0x641c, 0x6452, 0x6556,
    0x6674, 0x6717, 0x671b, 0x6756, 0x6b79, 0x6bba, 0x6d41, 0x6edb, 0x6ecb, 0x6f22, 0x701e,
    0x716e, 0x77a7, 0x7235, 0x72af, 0x732a, 0x7471, 0x7506, 0x753b, 0x761d, 0x761f, 0x76ca,
    0x76db, 0x76f4, 0x774a, 0x7740, 0x78cc, 0x7ab1, 0x7bc0, 0x7c7b, 0x7d5b, 0x7df4, 0x7f3e,
    0x8005, 0x8352, 0x83ef, 0x8779, 0x8941, 0x8986, 0x8996, 0x8abf, 0x8af8, 0x8acb, 0x8b01,
    0x8afe, 0x8aed, 0x8b39, 0x8b8a, 0x8d08, 0x8f38, 0x9072, 0x9199, 0x9276, 0x967c, 0x96e3,
    0x9756, 0x97db, 0x97ff, 0x980b, 0x983b, 0x9b12, 0x9f9c, 0x2284a, 0x22844, 0x233d5, 0x3b9d,
    0x4018, 0x4039, 0x25249, 0x25cd0, 0x27ed3, 0x9f43, 0x9f8e]),
  (0x2f800, [
    0x4e3d, 0x4e38, 0x4e41, 0x20122, 0x4f60, 0x4fae, 0x4fbb, 0x5002, 0x507a, 0x5099, 0x50e7,
    0x50cf, 0x349e, 0x2063a, 0x514d, 0x5154, 0x5164, 0x5177, 0x2051c, 0x34b9, 0x5167, 0x518d,
    0x2054b, 0x5197, 0x51a4, 0x4ecc, 0x51ac, 0x51b5, 0x291df, 0x51f5, 0x5203, 0x34df, 0x523b,
    0x5246, 0x5272, 0x5277, 0x3515, 0x52c7, 0x52c9, 0x52e4, 0x52fa, 0x5305, 0x5306, 0x5317,
    0x5349, 0x5351, 0x535a, 0x5373, 0x537d, 0x537f, 0x537f, 0x537f, 0x20a2c, 0x7070, 0x53ca,
    0x53df, 0x20b63, 0x53eb, 0x53f1, 0x5406, 0x549e, 0x5438, 0x5448, 0x5468, 0x54a2, 0x54f6,
    0x5510, 0x5553, 0x5563, 0x5584, 0x5584, 0x5599, 0x55ab, 0x55b3, 0x55c2, 0x5716, 0x5606,
    0x5717, 0x5651, 0x5674, 0x5207, 0x58ee, 0x57ce, 0x57f4, 0x580d, 0x578b, 0x5832, 0x5831,
    0x58ac, 0x214e4, 0x58f2, 0x58f7, 0x5906, 0x591a, 0x5922, 0x5962, 0x216a8, 0x216ea, 0x59ec,
    0x5a1b, 0x5a27, 0x59d8, 0x5a66, 0x36ee, 0x36fc, 0x5b08, 0x5b3e, 0x5b3e, 0x219c8, 0x5bc3,
    0x5bd8, 0x5be7, 0x5bf3, 0x21b18, 0x5bff, 0x5c06, 0x5f53, 0x5c22, 0x3781, 0x5c60, 0x5c6e,
    0x5cc0, 0x5c8d, 0x21de4, 0x5d43, 0x21de6, 0x5d6e, 0x5d6b, 0x5d7c, 0x5de1, 0x5de2, 0x382f,
    0x5dfd, 0x5e28, 0x5e3d, 0x5e69, 0x3862, 0x22183, 0x387c, 0x5eb0, 0x5eb3, 0x5eb6, 0x5eca,
    0x2a392, 0x5efe, 0x22331, 0x22331, 0x8201, 0x5f22, 0x5f22, 0x38c7, 0x232b8, 0x261da, 0x5f62,
    0x5f6b, 0x38e3, 0x5f9a, 0x5fcd, 0x5fd7, 0x5ff9, 0x6081, 0x393a, 0x391c, 0x6094, 0x226d4,
    0x60c7, 0x6148, 0x614c, 0x614e, 0x614c, 0x617a, 0x618e, 0x61b2, 0x61a4, 0x61af, 0x61de,
    0x61f2, 0x61f6, 0x6210, 0x621b, 0x625d, 0x62b1, 0x62d4, 0x6350, 0x22b0c, 0x633d, 0x62fc,
    0x6368, 0x6383, 0x63e4, 0x22bf1, 0x6422, 0x63c5, 0x63a9, 0x3a2e, 0x6469, 0x647e, 0x649d,
    0x6477, 0x3a6c, 0x654f, 0x656c, 0x2300a, 0x65e3, 0x66f8, 0x6649, 0x3b19, 0x6691, 0x3b08,
    0x3ae4, 0x5192, 0x5195, 0x6700, 0x669c, 0x80ad, 0x43d9, 0x6717, 0x671b, 0x6721, 0x675e,
    0x6753, 0x233c3, 0x3b49, 0x67fa, 0x6785, 0x6852, 0x6885, 0x2346d, 0x688e, 0x681f, 0x6914,
    0x3b9d, 0x6942, 0x69a3, 0x69ea, 0x6aa8, 0x236a3, 0x6adb, 0x3c18, 0x6b21, 0x238a7, 0x6b54,
    0x3c4e, 0x6b72, 0x6b9f, 0x6bba, 0x6bbb, 0x23a8d, 0x21d0b, 0x23afa, 0x6c4e, 0x23cbc, 0x6cbf,
    0x6ccd, 0x6c67, 0x6d16, 0x6d3e, 0x6d77, 0x6d41, 0x6d69, 0x6d78, 0x6d85, 0x23d1e, 0x6d34,
    0x6e2f, 0x6e6e, 0x3d33, 0x6ecb, 0x6ec7, 0x23ed1, 0x6df9, 0x6f6e, 0x23f5e, 0x23f8e, 0x6fc6,
    0x7039, 0x701e, 0x701b, 0x3d96, 0x704a, 0x707d, 0x7077, 0x70ad, 0x20525, 0x7145, 0x24263,
    0x719c, 0x243ab, 0x7228, 0x7235, 0x7250, 0x24608, 0x7280, 0x7295, 0x24735, 0x24814, 0x737a,
    0x738b, 0x3eac, 0x73a5, 0x3eb8, 0x3eb8, 0x7447, 0x745c, 0x7471, 0x7485, 0x74ca, 0x3f1b,
    0x7524, 0x24c36, 0x753e, 0x24c92, 0x7570, 0x2219f, 0x7610, 0x24fa1, 0x24fb8, 0x25044, 0x3ffc,
    0x4008, 0x76f4, 0x250f3, 0x250f2, 0x25119, 0x25133, 0x771e, 0x771f, 0x771f, 0x774a, 0x4039,
    0x778b, 0x4046, 0x4096, 0x2541d, 0x784e, 0x788c, 0x78cc, 0x40e3, 0x25626, 0x7956, 0x2569a,
    0x256c5, 0x798f, 0x79eb, 0x412f, 0x7a40, 0x7a4a, 0x7a4f, 0x2597c, 0x25aa7, 0x25aa7, 0x7aee,
    0x4202, 0x25bab, 0x7bc6, 0x7bc9, 0x4227, 0x25c80, 0x7cd2, 0x42a0, 0x7ce8, 0x7ce3, 0x7d00,
    0x25f86, 0x7d63, 0x4301, 0x7dc7, 0x7e02, 0x7e45, 0x4334, 0x26228, 0x26247, 0x4359, 0x262d9,
    0x7f7a, 0x2633e, 0x7f95, 0x7ffa, 0x8005, 0x264da, 0x26523, 0x8060, 0x265a8, 0x8070, 0x2335f,
    0x43d5, 0x80b2, 0x8103, 0x440b, 0x813e, 0x5ab5, 0x267a7, 0x267b5, 0x23393, 0x2339c, 0x8201,
    0x8204, 0x8f9e, 0x446b, 0x8291, 0x828b, 0x829d, 0x52b3, 0x82b1, 0x82b3, 0x82bd, 0x82e6,
    0x26b3c, 0x82e5, 0x831d, 0x8363, 0x83ad, 0x8323, 0x83bd, 0x83e7, 0x8457, 0x8353, 0x83ca,
    0x83cc, 0x83dc, 0x26c36, 0x26d6b, 0x26cd5, 0x452b, 0x84f1, 0x84f3, 0x8516, 0x273ca, 0x8564,
    0x26f2c, 0x455d, 0x4561, 0x26fb1, 0x270d2, 0x456b, 0x8650, 0x865c, 0x8667, 0x8669, 0x86a9,
    0x8688, 0x870e, 0x86e2, 0x8779, 0x8728, 0x876b, 0x8786, 0x45d7, 0x87e1, 0x8801, 0x45f9,
    0x8860, 0x8863, 0x27667, 0x88d7, 0x88de, 0x4635, 0x88fa, 0x34bb, 0x278ae, 0x27966, 0x46be,
    0x46c7, 0x8aa0, 0x8aed, 0x8b8a, 0x8c55, 0x27ca8, 0x8cab, 0x8cc1, 0x8d1b, 0x8d77, 0x27f2f,
    0x20804, 0x8dcb, 0x8dbc, 0x8df0, 0x208de, 0x8ed4, 0x8f38, 0x285d2, 0x285ed, 0x9094, 0x90f1,
    0x9111, 0x2872e, 0x911b, 0x9238, 0x92d7, 0x92d8, 0x927c, 0x93f9, 0x9415, 0x28bfa, 0x958b,
    0x4995, 0x95b7, 0x28d77, 0x49e6, 0x96c3, 0x5db2, 0x9723, 0x29145, 0x2921a, 0x4a6e, 0x4a76,
    0x97e0, 0x2940a, 0x4ab2, 0x29496, 0x980b, 0x980b, 0x9829, 0x295b6, 0x98e2, 0x4b33, 0x9929,
    0x99a7, 0x99c2, 0x99fe, 0x4bce, 0x29b30, 0x9b12, 0x9c40, 0x9cfd, 0x4cce, 0x4ced, 0x9d67,
    0x2a0ce, 0x4cf8, 0x2a105, 0x2a20e, 0x2a291, 0x9ebb, 0x4d56, 0x9ef9, 0x9efe, 0x9f05, 0x9f0f,
    0x9f16, 0x9f3b, 0x2a600])]

/-- First character, last character and combining class. -/
def combiningClasses : List (Nat × Nat × Nat) := [
  (0x300, 0x314, 230), (0x315, 0x315, 232), (0x316, 0x319, 220), (0x31a, 0x31a, 232),
  (0x31b, 0x31b, 216), (0x31c, 0x320, 220), (0x321, 0x322, 202), (0x323, 0x326, 220),
  (0x327, 0x328, 202), (0x329, 0x333, 220), (0x334, 0x338, 1), (0x339, 0x33c, 220),
  (0x33d, 0x33f, 230), (0x342, 0x342, 230), (0x345, 0x345, 240), (0x346, 0x346, 230),
  (0x347, 0x349, 220), (0x34a, 0x34c, 230), (0x34d, 0x34e, 220), (0x350, 0x352, 230),
  (0x353, 0x356, 220), (0x357, 0x357, 230), (0x358, 0x358, 232), (0x359, 0x35a, 220),
  (0x35b, 0x35b, 230), (0x35c, 0x35c, 233), (0x35d, 0x35e, 234), (0x35f, 0x35f, 233),
  (0x360, 0x361, 234), (0x362, 0x362, 233), (0x363, 0x36f, 230), (0x483, 0x487, 230),
  (0x591, 0x591, 220), (0x592, 0x595, 230), (0x596, 0x596, 220), (0x597, 0x599, 230),
  (0x59a, 0x59a, 222), (0x59b, 0x59b, 220), (0x59c, 0x5a1, 230), (0x5a2, 0x5a7, 220),
  (0x5a8, 0x5a9, 230), (0x5aa, 0x5aa, 220), (0x5ab, 0x5ac, 230), (0x5ad, 0x5ad, 222),
  (0x5ae, 0x5ae, 228), (0x5af, 0x5af, 230), (0x5b0, 0x5b0, 10), (0x5b1, 0x5b1, 11),
  (0x5b2, 0x5b2, 12), (0x5b3, 0x5b3, 13), (0x5b4, 0x5b4, 14), (0x5b5, 0x5b5, 15),
  (0x5b6, 0x5b6, 16), (0x5b7, 0x5b7, 17), (0x5b8, 0x5b8, 18), (0x5b9, 0x5ba, 19),
  (0x5bb, 0x5bb, 20), (0x5bc, 0x5bc, 21), (0x5bd, 0x5bd, 22), (0x5bf, 0x5bf, 23),
  (0x5c1, 0x5c1, 24), (0x5c2, 0x5c2, 25), (0x5c4, 0x5c4, 230), (0x5c5, 0x5c5, 220),
  (0x5c7, 0x5c7, 18), (0x610, 0x617, 230), (0x618, 0x618, 30), (0x619, 0x619, 31),
  (0x61a, 0x61a, 32), (0x64b, 0x64b, 27), (0x64c, 0x64c, 28), (0x64d, 0x64d, 29),
  (0x64e, 0x64e, 30), (0x64f, 0x64f, 31), (0x650, 0x650, 32), (0x651, 0x651, 33),
  (0x652, 0x652, 34), (0x653, 0x654, 230), (0x655, 0x656, 220), (0x657, 0x65b, 230),
  (0x65c, 0x65c, 220), (0x65d, 0x65e, 230), (0x65f, 0x65f, 220), (0x670, 0x670, 35),
  (0x6d6, 0x6dc, 230), (0x6df, 0x6e2, 230), (0x6e3, 0x6e3, 220), (0x6e4, 0x6e4, 230),
  (0x6e7, 0x6e8, 230), (0x6ea, 0x6ea, 220), (0x6eb, 0x6ec, 230), (0x6ed, 0x6ed, 220),
  (0x711, 0x711, 36), (0x730, 0x730, 230), (0x731, 0x731, 220), (0x732, 0x733, 230),
  (0x734, 0x734, 220), (0x735, 0x736, 230), (0x737, 0x739, 220), (0x73a, 0x73a, 230),
  (0x73b, 0x73c, 220), (0x73d, 0x73d, 230), (0x73e, 0x73e, 220), (0x73f, 0x741, 230),
  (0x742, 0x742, 220), (0x743, 0x743, 230), (0x744, 0x744, 220), (0x745, 0x745, 230),
  (0x746, 0x746, 220), (0x747, 0x747, 230), (0x748, 0x748, 220), (0x749, 0x74a, 230),
  (0x7eb, 0x7f1, 230), (0x7f2, 0x7f2, 220), (0x7f3, 0x7f3, 230), (0x7fd, 0x7fd, 220),
  (0x816, 0x819, 230), (0x81b, 0x823, 230), (0x825, 0x827, 230), (0x829, 0x82d, 230),
  (0x859, 0x85b, 220), (0x897, 0x898, 230), (0x899, 0x89b, 220), (0x89c, 0x89f, 230),
  (0x8ca, 0x8ce, 230), (0x8cf, 0x8d3, 220), (0x8d4, 0x8e1, 230), (0x8e3, 0x8e3, 220),
  (0x8e4, 0x8e5, 230), (0x8e6, 0x8e6, 220), (0x8e7, 0x8e8, 230), (0x8e9, 0x8e9, 220),
  (0x8ea, 0x8ec, 230), (0x8ed, 0x8ef, 220), (0x8f0, 0x8f0, 27), (0x8f1, 0x8f1, 28),
  (0x8f2, 0x8f2, 29), (0x8f3, 0x8f5, 230), (0x8f6, 0x8f6, 220), (0x8f7, 0x8f8, 230),
  (0x8f9, 0x8fa, 220), (0x8fb, 0x8ff, 230), (0x93c, 0x93c, 7), (0x94d, 0x94d, 9),
  (0x951, 0x951, 230), (0x952, 0x952, 220), (0x953, 0x954, 230), (0x9bc, 0x9bc, 7),
  (0x9cd, 0x9cd, 9), (0x9fe, 0x9fe, 230), (0xa3c, 0xa3c, 7), (0xa4d, 0xa4d, 9),
  (0xabc, 0xabc, 7), (0xacd, 0xacd, 9), (0xb3c, 0xb3c, 7), (0xb4d, 0xb4d, 9), (0xbcd, 0xbcd, 9),
  (0xc3c, 0xc3c, 7), (0xc4d, 0xc4d, 9), (0xc55, 0xc55, 84), (0xc56, 0xc56, 91),
  (0xcbc, 0xcbc, 7), (0xccd, 0xccd, 9), (0xd3b, 0xd3c, 9), (0xd4d, 0xd4d, 9), (0xdca, 0xdca, 9),
  (0xe38, 0xe39, 103), (0xe3a, 0xe3a, 9), (0xe48, 0xe4b, 107), (0xeb8, 0xeb9, 118),
  (0xeba, 0xeba, 9), (0xec8, 0xecb, 122), (0xf18, 0xf19, 220), (0xf35, 0xf35, 220),
  (0xf37, 0xf37, 220), (0xf39, 0xf39, 216), (0xf71, 0xf71, 129), (0xf72, 0xf72, 130),
  (0xf74, 0xf74, 132), (0xf7a, 0xf7d, 130), (0xf80, 0xf80, 130), (0xf82, 0xf83, 230),
  (0xf84, 0xf84, 9), (0xf86, 0xf87, 230), (0xfc6, 0xfc6, 220), (0x1037, 0x1037, 7),
  (0x1039, 0x103a, 9), (0x108d, 0x108d, 220), (0x135d, 0x135f, 230), (0x1714, 0x1715, 9),
  (0x1734, 0x1734, 9), (0x17d2, 0x17d2, 9), (0x17dd, 0x17dd, 230), (0x18a9, 0x18a9, 228),
  (0x1939, 0x1939, 222), (0x193a, 0x193a, 230), (0x193b, 0x193b, 220), (0x1a17, 0x1a17, 230),
  (0x1a18, 0x1a18, 220), (0x1a60, 0x1a60, 9), (0x1a75, 0x1a7c, 230), (0x1a7f, 0x1a7f, 220),
  (0x1ab0, 0x1ab4, 230), (0x1ab5, 0x1aba, 220), (0x1abb, 0x1abc, 230), (0x1abd, 0x1abd, 220),
  (0x1abf, 0x1ac0, 220), (0x1ac1, 0x1ac2, 230), (0x1ac3, 0x1ac4, 220), (0x1ac5, 0x1ac9, 230),
  (0x1aca, 0x1aca, 220), (0x1acb, 0x1ace, 230), (0x1b34, 0x1b34, 7), (0x1b44, 0x1b44, 9),
  (0x1b6b, 0x1b6b, 230), (0x1b6c, 0x1b6c, 220), (0x1b6d, 0x1b73, 230), (0x1baa, 0x1bab, 9),
  (0x1be6, 0x1be6, 7), (0x1bf2, 0x1bf3, 9), (0x1c37, 0x1c37, 7), (0x1cd0, 0x1cd2, 230),
  (0x1cd4, 0x1cd4, 1), (0x1cd5, 0x1cd9, 220), (0x1cda, 0x1cdb, 230), (0x1cdc, 0x1cdf, 220),
  (0x1ce0, 0x1ce0, 230), (0x1ce2, 0x1ce8, 1), (0x1ced, 0x1ced, 220), (0x1cf4, 0x1cf4, 230),
  (0x1cf8, 0x1cf9, 230), (0x1dc0, 0x1dc1, 230), (0x1dc2, 0x1dc2, 220), (0x1dc3, 0x1dc9, 230),
  (0x1dca, 0x1dca, 220), (0x1dcb, 0x1dcc, 230), (0x1dcd, 0x1dcd, 234), (0x1dce, 0x1dce, 214),
  (0x1dcf, 0x1dcf, 220), (0x1dd0, 0x1dd0, 202), (0x1dd1, 0x1df5, 230), (0x1df6, 0x1df6, 232),
  (0x1df7, 0x1df8, 228), (0x1df9, 0x1df9, 220), (0x1dfa, 0x1dfa, 218), (0x1dfb, 0x1dfb, 230),
  (0x1dfc, 0x1dfc, 233), (0x1dfd, 0x1dfd, 220), (0x1dfe, 0x1dfe, 230), (0x1dff, 0x1dff, 220),
  (0x20d0, 0x20d1, 230), (0x20d2, 0x20d3, 1), (0x20d4, 0x20d7, 230), (0x20d8, 0x20da, 1),
  (0x20db, 0x20dc, 230), (0x20e1, 0x20e1, 230), (0x20e5, 0x20e6, 1), (0x20e7, 0x20e7, 230),
  (0x20e8, 0x20e8, 220), (0x20e9, 0x20e9, 230), (0x20ea, 0x20eb, 1), (0x20ec, 0x20ef, 220),
  (0x20f0, 0x20f0, 230), (0x2cef, 0x2cf1, 230), (0x2d7f, 0x2d7f, 9), (0x2de0, 0x2dff, 230),
  (0x302a, 0x302a, 218), (0x302b, 0x302b, 228), (0x302c, 0x302c, 232), (0x302d, 0x302d, 222),
  (0x302e, 0x302f, 224), (0x3099, 0x309a, 8), (0xa66f, 0xa66f, 230), (0xa674, 0xa67d, 230),
  (0xa69e, 0xa69f, 230), (0xa6f0, 0xa6f1, 230), (0xa806, 0xa806, 9), (0xa82c, 0xa82c, 9),
  (0xa8c4, 0xa8c4, 9), (0xa8e0, 0xa8f1, 230), (0xa92b, 0xa92d, 220), (0xa953, 0xa953, 9),
  (0xa9b3, 0xa9b3, 7), (0xa9c0, 0xa9c0, 9), (0xaab0, 0xaab0, 230), (0xaab2, 0xaab3, 230),
  (0xaab4, 0xaab4, 220), (0xaab7, 0xaab8, 230), (0xaabe, 0xaabf, 230), (0xaac1, 0xaac1, 230),
  (0xaaf6, 0xaaf6, 9), (0xabed, 0xabed, 9), (0xfb1e, 0xfb1e, 26), (0xfe20, 0xfe26, 230),
  (0xfe27, 0xfe2d, 220), (0xfe2e, 0xfe2f, 230), (0x101fd, 0x101fd, 220), (0x102e0, 0x102e0, 220),
  (0x10376, 0x1037a, 230), (0x10a0d, 0x10a0d, 220), (0x10a0f, 0x10a0f, 230),
  (0x10a38, 0x10a38, 230), (0x10a39, 0x10a39, 1), (0x10a3a, 0x10a3a, 220), (0x10a3f, 0x10a3f, 9),
  (0x10ae5, 0x10ae5, 230), (0x10ae6, 0x10ae6, 220), (0x10d24, 0x10d27, 230),
  (0x10d69, 0x10d6d, 230), (0x10eab, 0x10eac, 230), (0x10efd, 0x10eff, 220),
  (0x10f46, 0x10f47, 220), (0x10f48, 0x10f4a, 230), (0x10f4b, 0x10f4b, 220),
  (0x10f4c, 0x10f4c, 230), (0x10f4d, 0x10f50, 220), (0x10f82, 0x10f82, 230),
  (0x10f83, 0x10f83, 220), (0x10f84, 0x10f84, 230), (0x10f85, 0x10f85, 220),
  (0x11046, 0x11046, 9), (0x11070, 0x11070, 9), (0x1107f, 0x1107f, 9), (0x110b9, 0x110b9, 9),
  (0x110ba, 0x110ba, 7), (0x11100, 0x11102, 230), (0x11133, 0x11134, 9), (0x11173, 0x11173, 7),
  (0x111c0, 0x111c0, 9), (0x111ca, 0x111ca, 7), (0x11235, 0x11235, 9), (0x11236, 0x11236, 7),
  (0x112e9, 0x112e9, 7), (0x112ea, 0x112ea, 9), (0x1133b, 0x1133c, 7), (0x1134d, 0x1134d, 9),
  (0x11366, 0x1136c, 230), (0x11370, 0x11374, 230), (0x113ce, 0x113d0, 9), (0x11442, 0x11442, 9),
  (0x11446, 0x11446, 7), (0x1145e, 0x1145e, 230), (0x114c2, 0x114c2, 9), (0x114c3, 0x114c3, 7),
  (0x115bf, 0x115bf, 9), (0x115c0, 0x115c0, 7), (0x1163f, 0x1163f, 9), (0x116b6, 0x116b6, 9),
  (0x116b7, 0x116b7, 7), (0x1172b, 0x1172b, 9), (0x11839, 0x11839, 9), (0x1183a, 0x1183a, 7),
  (0x1193d, 0x1193e, 9), (0x11943, 0x11943, 7), (0x119e0, 0x119e0, 9), (0x11a34, 0x11a34, 9),
  (0x11a47, 0x11a47, 9), (0x11a99, 0x11a99, 9), (0x11c3f, 0x11c3f, 9), (0x11d42, 0x11d42, 7),
  (0x11d44, 0x11d45, 9), (0x11d97, 0x11d97, 9), (0x11f41, 0x11f42, 9), (0x1612f, 0x1612f, 9),
  (0x16af0, 0x16af4, 1), (0x16b30, 0x16b36, 230), (0x16ff0, 0x16ff1, 6), (0x1bc9e, 0x1bc9e, 1),
  (0x1d165, 0x1d166, 216), (0x1d167, 0x1d169, 1), (0x1d16d, 0x1d16d, 226),
  (0x1d16e, 0x1d172, 216), (0x1d17b, 0x1d182, 220), (0x1d185, 0x1d189, 230),
  (0x1d18a, 0x1d18b, 220), (0x1d1aa, 0x1d1ad, 230), (0x1d242, 0x1d244, 230),
  (0x1e000, 0x1e006, 230), (0x1e008, 0x1e018, 230), (0x1e01b, 0x1e021, 230),
  (0x1e023, 0x1e024, 230), (0x1e026, 0x1e02a, 230), (0x1e08f, 0x1e08f, 230),
  (0x1e130, 0x1e136, 230), (0x1e2ae, 0x1e2ae, 230), (0x1e2ec, 0x1e2ef, 230),
  (0x1e4ec, 0x1e4ed, 232), (0x1e4ee, 0x1e4ee, 220), (0x1e4ef, 0x1e4ef, 230),
  (0x1e5ee, 0x1e5ee, 230), (0x1e5ef, 0x1e5ef, 220), (0x1e8d0, 0x1e8d6, 220),
  (0x1e944, 0x1e949, 230), (0x1e94a, 0x1e94a, 7)]

end MapQuery.Text
