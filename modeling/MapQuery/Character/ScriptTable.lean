import MapQuery.Character.Ranges

/-!
# Scripts

The properties `Script` and `Script_Extensions`. A script goes by several names, its code first.
-/

namespace MapQuery.Character

/-- The scripts with their names and the code points that belong to them alone. -/
def scripts : List Listing := [
  ⟨["adlm", "adlam"],
    "1e900-1e94b 1e950-1e959 1e95e-1e95f"⟩,
  ⟨["aghb", "caucasianalbanian"],
    "10530-10563 1056f"⟩,
  ⟨["ahom"],
    "11700-1171a 1171d-1172b 11730-11746"⟩,
  ⟨["arab", "arabic"],
    "600-604 606-60b 60d-61a 61c-61e 620-63f 641-64a 656-66f 671-6dc 6de-6ff 750-77f 870-88e
      890-891 897-8e1 8e3-8ff fb50-fbc2 fbd3-fd3d fd40-fd8f fd92-fdc7 fdcf fdf0-fdff fe70-fe74
      fe76-fefc 10e60-10e7e 10ec2-10ec4 10efc-10eff 1ee00-1ee03 1ee05-1ee1f 1ee21-1ee22 1ee24
      1ee27 1ee29-1ee32 1ee34-1ee37 1ee39 1ee3b 1ee42 1ee47/1ee4b 1ee4d-1ee4f 1ee51-1ee52
      1ee54 1ee57/1ee5f 1ee61-1ee62 1ee64 1ee67-1ee6a 1ee6c-1ee72 1ee74-1ee77 1ee79-1ee7c
      1ee7e 1ee80-1ee89 1ee8b-1ee9b 1eea1-1eea3 1eea5-1eea9 1eeab-1eebb 1eef0-1eef1"⟩,
  ⟨["armi", "imperialaramaic"],
    "10840-10855 10857-1085f"⟩,
  ⟨["armn", "armenian"],
    "531-556 559-58a 58d-58f fb13-fb17"⟩,
  ⟨["avst", "avestan"],
    "10b00-10b35 10b39-10b3f"⟩,
  ⟨["bali", "balinese"],
    "1b00-1b4c 1b4e-1b7f"⟩,
  ⟨["bamu", "bamum"],
    "a6a0-a6f7 16800-16a38"⟩,
  ⟨["bass", "bassavah"],
    "16ad0-16aed 16af0-16af5"⟩,
  ⟨["batk", "batak"],
    "1bc0-1bf3 1bfc-1bff"⟩,
  ⟨["beng", "bengali"],
    "980-983 985-98c 98f-990 993-9a8 9aa-9b0 9b2 9b6-9b9 9bc-9c4 9c7-9c8 9cb-9ce 9d7 9dc-9dd
      9df-9e3 9e6-9fe"⟩,
  ⟨["bhks", "bhaiksuki"],
    "11c00-11c08 11c0a-11c36 11c38-11c45 11c50-11c6c"⟩,
  ⟨["bopo", "bopomofo"],
    "2ea-2eb 3105-312f 31a0-31bf"⟩,
  ⟨["brah", "brahmi"],
    "11000-1104d 11052-11075 1107f"⟩,
  ⟨["brai", "braille"],
    "2800-28ff"⟩,
  ⟨["bugi", "buginese"],
    "1a00-1a1b 1a1e-1a1f"⟩,
  ⟨["buhd", "buhid"],
    "1740-1753"⟩,
  ⟨["cakm", "chakma"],
    "11100-11134 11136-11147"⟩,
  ⟨["cans", "canadianaboriginal"],
    "1400-167f 18b0-18f5 11ab0-11abf"⟩,
  ⟨["cari", "carian"],
    "102a0-102d0"⟩,
  ⟨["cham"],
    "aa00-aa36 aa40-aa4d aa50-aa59 aa5c-aa5f"⟩,
  ⟨["cher", "cherokee"],
    "13a0-13f5 13f8-13fd ab70-abbf"⟩,
  ⟨["chrs", "chorasmian"],
    "10fb0-10fcb"⟩,
  ⟨["copt", "coptic", "qaac"],
    "3e2-3ef 2c80-2cf3 2cf9-2cff"⟩,
  ⟨["cpmn", "cyprominoan"],
    "12f90-12ff2"⟩,
  ⟨["cprt", "cypriot"],
    "10800-10805 10808 1080a-10835 10837-10838 1083c 1083f"⟩,
  ⟨["cyrl", "cyrillic"],
    "400-484 487-52f 1c80-1c8a 1d2b 1d78 2de0-2dff a640-a69f fe2e-fe2f 1e030-1e06d 1e08f"⟩,
  ⟨["deva", "devanagari"],
    "900-950 955-963 966-97f a8e0-a8ff 11b00-11b09"⟩,
  ⟨["diak", "divesakuru"],
    "11900-11906 11909 1190c-11913 11915-11916 11918-11935 11937-11938 1193b-11946
      11950-11959"⟩,
  ⟨["dogr", "dogra"],
    "11800-1183b"⟩,
  ⟨["dsrt", "deseret"],
    "10400-1044f"⟩,
  ⟨["dupl", "duployan"],
    "1bc00-1bc6a 1bc70-1bc7c 1bc80-1bc88 1bc90-1bc99 1bc9c-1bc9f"⟩,
  ⟨["egyp", "egyptianhieroglyphs"],
    "13000-13455 13460-143fa"⟩,
  ⟨["elba", "elbasan"],
    "10500-10527"⟩,
  ⟨["elym", "elymaic"],
    "10fe0-10ff6"⟩,
  ⟨["ethi", "ethiopic"],
    "1200-1248 124a-124d 1250-1256 1258 125a-125d 1260-1288 128a-128d 1290-12b0 12b2-12b5
      12b8-12be 12c0 12c2-12c5 12c8-12d6 12d8-1310 1312-1315 1318-135a 135d-137c 1380-1399
      2d80-2d96 2da0-2da6 2da8-2dae 2db0-2db6 2db8-2dbe 2dc0-2dc6 2dc8-2dce 2dd0-2dd6
      2dd8-2dde ab01-ab06 ab09-ab0e ab11-ab16 ab20-ab26 ab28-ab2e 1e7e0-1e7e6 1e7e8-1e7eb
      1e7ed-1e7ee 1e7f0-1e7fe"⟩,
  ⟨["geor", "georgian"],
    "10a0-10c5 10c7 10cd 10d0-10fa 10fc-10ff 1c90-1cba 1cbd-1cbf 2d00-2d25 2d27 2d2d"⟩,
  ⟨["glag", "glagolitic"],
    "2c00-2c5f 1e000-1e006 1e008-1e018 1e01b-1e021 1e023-1e024 1e026-1e02a"⟩,
  ⟨["gong", "gunjalagondi"],
    "11d60-11d65 11d67-11d68 11d6a-11d8e 11d90-11d91 11d93-11d98 11da0-11da9"⟩,
  ⟨["gonm", "masaramgondi"],
    "11d00-11d06 11d08-11d09 11d0b-11d36 11d3a 11d3c-11d3d 11d3f-11d47 11d50-11d59"⟩,
  ⟨["goth", "gothic"],
    "10330-1034a"⟩,
  ⟨["gran", "grantha"],
    "11300-11303 11305-1130c 1130f-11310 11313-11328 1132a-11330 11332-11333 11335-11339
      1133c-11344 11347-11348 1134b-1134d 11350 11357 1135d-11363 11366-1136c 11370-11374"⟩,
  ⟨["grek", "greek"],
    "370-373 375-377 37a-37d 37f 384 386 388-38a 38c 38e-3a1 3a3-3e1 3f0-3ff 1d26-1d2a
      1d5d-1d61 1d66-1d6a 1dbf 1f00-1f15 1f18-1f1d 1f20-1f45 1f48-1f4d 1f50-1f57 1f59/1f5d
      1f5f-1f7d 1f80-1fb4 1fb6-1fc4 1fc6-1fd3 1fd6-1fdb 1fdd-1fef 1ff2-1ff4 1ff6-1ffe 2126
      ab65 10140-1018e 101a0 1d200-1d245"⟩,
  ⟨["gujr", "gujarati"],
    "a81-a83 a85-a8d a8f-a91 a93-aa8 aaa-ab0 ab2-ab3 ab5-ab9 abc-ac5 ac7-ac9 acb-acd ad0
      ae0-ae3 ae6-af1 af9-aff"⟩,
  ⟨["guru", "gurmukhi"],
    "a01-a03 a05-a0a a0f-a10 a13-a28 a2a-a30 a32-a33 a35-a36 a38-a39 a3c a3e-a42 a47-a48
      a4b-a4d a51 a59-a5c a5e a66-a76"⟩,
  ⟨["hang", "hangul"],
    "1100-11ff 302e-302f 3131-318e 3200-321e 3260-327e a960-a97c ac00-d7a3 d7b0-d7c6
      d7cb-d7fb ffa0-ffbe ffc2-ffc7 ffca-ffcf ffd2-ffd7 ffda-ffdc"⟩,
  ⟨["hani", "han"],
    "2e80-2e99 2e9b-2ef3 2f00-2fd5 3005 3007 3021-3029 3038-303b 3400-4dbf 4e00-9fff
      f900-fa6d fa70-fad9 16fe2-16fe3 16ff0-16ff1 20000-2a6df 2a700-2b739 2b740-2b81d
      2b820-2cea1 2ceb0-2ebe0 2ebf0-2ee5d 2f800-2fa1d 30000-3134a 31350-323af"⟩,
  ⟨["hano", "hanunoo"],
    "1720-1734"⟩,
  ⟨["hatr", "hatran"],
    "108e0-108f2 108f4-108f5 108fb-108ff"⟩,
  ⟨["hebr", "hebrew"],
    "591-5c7 5d0-5ea 5ef-5f4 fb1d-fb36 fb38-fb3c fb3e fb40-fb41 fb43-fb44 fb46-fb4f"⟩,
  ⟨["hira", "hiragana"],
    "3041-3096 309d-309f 1b001-1b11f 1b132 1b150-1b152 1f200"⟩,
  ⟨["hluw", "anatolianhieroglyphs"],
    "14400-14646"⟩,
  ⟨["hmng", "pahawhhmong"],
    "16b00-16b45 16b50-16b59 16b5b-16b61 16b63-16b77 16b7d-16b8f"⟩,
  ⟨["hmnp", "nyiakengpuachuehmong"],
    "1e100-1e12c 1e130-1e13d 1e140-1e149 1e14e-1e14f"⟩,
  ⟨["hung", "oldhungarian"],
    "10c80-10cb2 10cc0-10cf2 10cfa-10cff"⟩,
  ⟨["ital", "olditalic"],
    "10300-10323 1032d-1032f"⟩,
  ⟨["java", "javanese"],
    "a980-a9cd a9d0-a9d9 a9de-a9df"⟩,
  ⟨["kali", "kayahli"],
    "a900-a92d a92f"⟩,
  ⟨["kana", "katakana"],
    "30a1-30fa 30fd-30ff 31f0-31ff 32d0-32fe 3300-3357 ff66-ff6f ff71-ff9d 1aff0-1aff3
      1aff5-1affb 1affd-1affe 1b000 1b120-1b122 1b155 1b164-1b167"⟩,
  ⟨["kawi"],
    "11f00-11f10 11f12-11f3a 11f3e-11f5a"⟩,
  ⟨["khar", "kharoshthi"],
    "10a00-10a03 10a05-10a06 10a0c-10a13 10a15-10a17 10a19-10a35 10a38-10a3a 10a3f-10a48
      10a50-10a58"⟩,
  ⟨["khmr", "khmer"],
    "1780-17dd 17e0-17e9 17f0-17f9 19e0-19ff"⟩,
  ⟨["khoj", "khojki"],
    "11200-11211 11213-11241"⟩,
  ⟨["kits", "khitansmallscript"],
    "16fe4 18b00-18cd5 18cff"⟩,
  ⟨["knda", "kannada"],
    "c80-c8c c8e-c90 c92-ca8 caa-cb3 cb5-cb9 cbc-cc4 cc6-cc8 cca-ccd cd5-cd6 cdd-cde ce0-ce3
      ce6-cef cf1-cf3"⟩,
  ⟨["kthi", "kaithi"],
    "11080-110c2 110cd"⟩,
  ⟨["lana", "taitham"],
    "1a20-1a5e 1a60-1a7c 1a7f-1a89 1a90-1a99 1aa0-1aad"⟩,
  ⟨["laoo", "lao"],
    "e81-e82 e84 e86-e8a e8c-ea3 ea5 ea7-ebd ec0-ec4 ec6 ec8-ece ed0-ed9 edc-edf"⟩,
  ⟨["latn", "latin"],
    "41-5a 61-7a aa ba c0-d6 d8-f6 f8-2b8 2e0-2e4 1d00-1d25 1d2c-1d5c 1d62-1d65 1d6b-1d77
      1d79-1dbe 1e00-1eff 2071 207f 2090-209c 212a-212b 2132 214e 2160-2188 2c60-2c7f
      a722-a787 a78b-a7cd a7d0-a7d1 a7d3 a7d5-a7dc a7f2-a7ff ab30-ab5a ab5c-ab64 ab66-ab69
      fb00-fb06 ff21-ff3a ff41-ff5a 10780-10785 10787-107b0 107b2-107ba 1df00-1df1e
      1df25-1df2a"⟩,
  ⟨["lepc", "lepcha"],
    "1c00-1c37 1c3b-1c49 1c4d-1c4f"⟩,
  ⟨["limb", "limbu"],
    "1900-191e 1920-192b 1930-193b 1940 1944-194f"⟩,
  ⟨["lina", "lineara"],
    "10600-10736 10740-10755 10760-10767"⟩,
  ⟨["linb", "linearb"],
    "10000-1000b 1000d-10026 10028-1003a 1003c-1003d 1003f-1004d 10050-1005d 10080-100fa"⟩,
  ⟨["lisu"],
    "a4d0-a4ff 11fb0"⟩,
  ⟨["lyci", "lycian"],
    "10280-1029c"⟩,
  ⟨["lydi", "lydian"],
    "10920-10939 1093f"⟩,
  ⟨["mahj", "mahajani"],
    "11150-11176"⟩,
  ⟨["maka", "makasar"],
    "11ee0-11ef8"⟩,
  ⟨["mand", "mandaic"],
    "840-85b 85e"⟩,
  ⟨["mani", "manichaean"],
    "10ac0-10ae6 10aeb-10af6"⟩,
  ⟨["marc", "marchen"],
    "11c70-11c8f 11c92-11ca7 11ca9-11cb6"⟩,
  ⟨["medf", "medefaidrin"],
    "16e40-16e9a"⟩,
  ⟨["mend", "mendekikakui"],
    "1e800-1e8c4 1e8c7-1e8d6"⟩,
  ⟨["merc", "meroiticcursive"],
    "109a0-109b7 109bc-109cf 109d2-109ff"⟩,
  ⟨["mero", "meroitichieroglyphs"],
    "10980-1099f"⟩,
  ⟨["mlym", "malayalam"],
    "d00-d0c d0e-d10 d12-d44 d46-d48 d4a-d4f d54-d63 d66-d7f"⟩,
  ⟨["modi"],
    "11600-11644 11650-11659"⟩,
  ⟨["mong", "mongolian"],
    "1800-1801 1804 1806-1819 1820-1878 1880-18aa 11660-1166c"⟩,
  ⟨["mroo", "mro"],
    "16a40-16a5e 16a60-16a69 16a6e-16a6f"⟩,
  ⟨["mtei", "meeteimayek"],
    "aae0-aaf6 abc0-abed abf0-abf9"⟩,
  ⟨["mult", "multani"],
    "11280-11286 11288 1128a-1128d 1128f-1129d 1129f-112a9"⟩,
  ⟨["mymr", "myanmar"],
    "1000-109f a9e0-a9fe aa60-aa7f 116d0-116e3"⟩,
  ⟨["nagm", "nagmundari"],
    "1e4d0-1e4f9"⟩,
  ⟨["nand", "nandinagari"],
    "119a0-119a7 119aa-119d7 119da-119e4"⟩,
  ⟨["narb", "oldnortharabian"],
    "10a80-10a9f"⟩,
  ⟨["nbat", "nabataean"],
    "10880-1089e 108a7-108af"⟩,
  ⟨["newa"],
    "11400-1145b 1145d-11461"⟩,
  ⟨["nkoo", "nko"],
    "7c0-7fa 7fd-7ff"⟩,
  ⟨["nshu", "nushu"],
    "16fe1 1b170-1b2fb"⟩,
  ⟨["ogam", "ogham"],
    "1680-169c"⟩,
  ⟨["olck", "olchiki"],
    "1c50-1c7f"⟩,
  ⟨["orkh", "oldturkic"],
    "10c00-10c48"⟩,
  ⟨["orya", "oriya"],
    "b01-b03 b05-b0c b0f-b10 b13-b28 b2a-b30 b32-b33 b35-b39 b3c-b44 b47-b48 b4b-b4d b55-b57
      b5c-b5d b5f-b63 b66-b77"⟩,
  ⟨["osge", "osage"],
    "104b0-104d3 104d8-104fb"⟩,
  ⟨["osma", "osmanya"],
    "10480-1049d 104a0-104a9"⟩,
  ⟨["ougr", "olduyghur"],
    "10f70-10f89"⟩,
  ⟨["palm", "palmyrene"],
    "10860-1087f"⟩,
  ⟨["pauc", "paucinhau"],
    "11ac0-11af8"⟩,
  ⟨["perm", "oldpermic"],
    "10350-1037a"⟩,
  ⟨["phag", "phagspa"],
    "a840-a877"⟩,
  ⟨["phli", "inscriptionalpahlavi"],
    "10b60-10b72 10b78-10b7f"⟩,
  ⟨["phlp", "psalterpahlavi"],
    "10b80-10b91 10b99-10b9c 10ba9-10baf"⟩,
  ⟨["phnx", "phoenician"],
    "10900-1091b 1091f"⟩,
  ⟨["plrd", "miao"],
    "16f00-16f4a 16f4f-16f87 16f8f-16f9f"⟩,
  ⟨["prti", "inscriptionalparthian"],
    "10b40-10b55 10b58-10b5f"⟩,
  ⟨["rjng", "rejang"],
    "a930-a953 a95f"⟩,
  ⟨["rohg", "hanifirohingya"],
    "10d00-10d27 10d30-10d39"⟩,
  ⟨["runr", "runic"],
    "16a0-16ea 16ee-16f8"⟩,
  ⟨["samr", "samaritan"],
    "800-82d 830-83e"⟩,
  ⟨["sarb", "oldsoutharabian"],
    "10a60-10a7f"⟩,
  ⟨["saur", "saurashtra"],
    "a880-a8c5 a8ce-a8d9"⟩,
  ⟨["sgnw", "signwriting"],
    "1d800-1da8b 1da9b-1da9f 1daa1-1daaf"⟩,
  ⟨["shaw", "shavian"],
    "10450-1047f"⟩,
  ⟨["shrd", "sharada"],
    "11180-111df"⟩,
  ⟨["sidd", "siddham"],
    "11580-115b5 115b8-115dd"⟩,
  ⟨["sind", "khudawadi"],
    "112b0-112ea 112f0-112f9"⟩,
  ⟨["sinh", "sinhala"],
    "d81-d83 d85-d96 d9a-db1 db3-dbb dbd dc0-dc6 dca dcf-dd4 dd6 dd8-ddf de6-def df2-df4
      111e1-111f4"⟩,
  ⟨["sogd", "sogdian"],
    "10f30-10f59"⟩,
  ⟨["sogo", "oldsogdian"],
    "10f00-10f27"⟩,
  ⟨["sora", "sorasompeng"],
    "110d0-110e8 110f0-110f9"⟩,
  ⟨["soyo", "soyombo"],
    "11a50-11aa2"⟩,
  ⟨["sund", "sundanese"],
    "1b80-1bbf 1cc0-1cc7"⟩,
  ⟨["sylo", "sylotinagri"],
    "a800-a82c"⟩,
  ⟨["syrc", "syriac"],
    "700-70d 70f-74a 74d-74f 860-86a"⟩,
  ⟨["tagb", "tagbanwa"],
    "1760-176c 176e-1770 1772-1773"⟩,
  ⟨["takr", "takri"],
    "11680-116b9 116c0-116c9"⟩,
  ⟨["tale", "taile"],
    "1950-196d 1970-1974"⟩,
  ⟨["talu", "newtailue"],
    "1980-19ab 19b0-19c9 19d0-19da 19de-19df"⟩,
  ⟨["taml", "tamil"],
    "b82-b83 b85-b8a b8e-b90 b92-b95 b99-b9a b9c b9e-b9f ba3-ba4 ba8-baa bae-bb9 bbe-bc2
      bc6-bc8 bca-bcd bd0 bd7 be6-bfa 11fc0-11ff1 11fff"⟩,
  ⟨["tang", "tangut"],
    "16fe0 17000-187f7 18800-18aff 18d00-18d08"⟩,
  ⟨["tavt", "taiviet"],
    "aa80-aac2 aadb-aadf"⟩,
  ⟨["telu", "telugu"],
    "c00-c0c c0e-c10 c12-c28 c2a-c39 c3c-c44 c46-c48 c4a-c4d c55-c56 c58-c5a c5d c60-c63
      c66-c6f c77-c7f"⟩,
  ⟨["tfng", "tifinagh"],
    "2d30-2d67 2d6f-2d70 2d7f"⟩,
  ⟨["tglg", "tagalog"],
    "1700-1715 171f"⟩,
  ⟨["thaa", "thaana"],
    "780-7b1"⟩,
  ⟨["thai"],
    "e01-e3a e40-e5b"⟩,
  ⟨["tibt", "tibetan"],
    "f00-f47 f49-f6c f71-f97 f99-fbc fbe-fcc fce-fd4 fd9-fda"⟩,
  ⟨["tirh", "tirhuta"],
    "11480-114c7 114d0-114d9"⟩,
  ⟨["tnsa", "tangsa"],
    "16a70-16abe 16ac0-16ac9"⟩,
  ⟨["toto"],
    "1e290-1e2ae"⟩,
  ⟨["ugar", "ugaritic"],
    "10380-1039d 1039f"⟩,
  ⟨["vaii", "vai"],
    "a500-a62b"⟩,
  ⟨["vith", "vithkuqi"],
    "10570-1057a 1057c-1058a 1058c-10592 10594-10595 10597-105a1 105a3-105b1 105b3-105b9
      105bb-105bc"⟩,
  ⟨["wara", "warangciti"],
    "118a0-118f2 118ff"⟩,
  ⟨["wcho", "wancho"],
    "1e2c0-1e2f9 1e2ff"⟩,
  ⟨["xpeo", "oldpersian"],
    "103a0-103c3 103c8-103d5"⟩,
  ⟨["xsux", "cuneiform"],
    "12000-12399 12400-1246e 12470-12474 12480-12543"⟩,
  ⟨["yezi", "yezidi"],
    "10e80-10ea9 10eab-10ead 10eb0-10eb1"⟩,
  ⟨["yiii", "yi"],
    "a000-a48c a490-a4c6"⟩,
  ⟨["zanb", "zanabazarsquare"],
    "11a00-11a47"⟩,
  ⟨["zinh", "inherited", "qaai"],
    "300-36f 485-486 64b-655 670 951-954 1ab0-1ace 1cd0-1cd2 1cd4-1ce0 1ce2-1ce8 1ced 1cf4
      1cf8-1cf9 1dc0-1dff 200c-200d 20d0-20f0 302a-302d 3099-309a fe00-fe0f fe20-fe2d 101fd
      102e0 1133b 1cf00-1cf2d 1cf30-1cf46 1d167-1d169 1d17b-1d182 1d185-1d18b 1d1aa-1d1ad
      e0100-e01ef"⟩,
  ⟨["zyyy", "common"],
    "0-40 5b-60 7b-a9 ab-b9 bb-bf d7 f7 2b9-2df 2e5-2e9 2ec-2ff 374 37e 385 387 605 60c 61b
      61f 640 6dd 8e2 964-965 e3f fd5-fd8 10fb 16eb-16ed 1735-1736 1802-1803 1805 1cd3 1ce1
      1ce9-1cec 1cee-1cf3 1cf5-1cf7 1cfa 2000-200b 200e-2064 2066-2070 2074-207e 2080-208e
      20a0-20c0 2100-2125 2127-2129 212c-2131 2133-214d 214f-215f 2189-218b 2190-2429
      2440-244a 2460-27ff 2900-2b73 2b76-2b95 2b97-2bff 2e00-2e5d 2ff0-3004 3006 3008-3020
      3030-3037 303c-303f 309b-309c 30a0 30fb-30fc 3190-319f 31c0-31e5 31ef 3220-325f
      327f-32cf 32ff 3358-33ff 4dc0-4dff a700-a721 a788-a78a a830-a839 a92e a9cf ab5b
      ab6a-ab6b fd3e-fd3f fe10-fe19 fe30-fe52 fe54-fe66 fe68-fe6b feff ff01-ff20 ff3b-ff40
      ff5b-ff65 ff70 ff9e-ff9f ffe0-ffe6 ffe8-ffee fff9-fffd 10100-10102 10107-10133
      10137-1013f 10190-1019c 101d0-101fc 102e1-102fb 1bca0-1bca3 1cc00-1ccf9 1cd00-1ceb3
      1cf50-1cfc3 1d000-1d0f5 1d100-1d126 1d129-1d166 1d16a-1d17a 1d183-1d184 1d18c-1d1a9
      1d1ae-1d1ea 1d2c0-1d2d3 1d2e0-1d2f3 1d300-1d356 1d360-1d378 1d400-1d454 1d456-1d49c
      1d49e-1d49f 1d4a2 1d4a5-1d4a6 1d4a9-1d4ac 1d4ae-1d4b9 1d4bb 1d4bd-1d4c3 1d4c5-1d505
      1d507-1d50a 1d50d-1d514 1d516-1d51c 1d51e-1d539 1d53b-1d53e 1d540-1d544 1d546
      1d54a-1d550 1d552-1d6a5 1d6a8-1d7cb 1d7ce-1d7ff 1ec71-1ecb4 1ed01-1ed3d 1f000-1f02b
      1f030-1f093 1f0a0-1f0ae 1f0b1-1f0bf 1f0c1-1f0cf 1f0d1-1f0f5 1f100-1f1ad 1f1e6-1f1ff
      1f201-1f202 1f210-1f23b 1f240-1f248 1f250-1f251 1f260-1f265 1f300-1f6d7 1f6dc-1f6ec
      1f6f0-1f6fc 1f700-1f776 1f77b-1f7d9 1f7e0-1f7eb 1f7f0 1f800-1f80b 1f810-1f847
      1f850-1f859 1f860-1f887 1f890-1f8ad 1f8b0-1f8bb 1f8c0-1f8c1 1f900-1fa53 1fa60-1fa6d
      1fa70-1fa7c 1fa80-1fa89 1fa8f-1fac6 1face-1fadc 1fadf-1fae9 1faf0-1faf8 1fb00-1fb92
      1fb94-1fbf9 e0001 e0020-e007f"⟩,
  ⟨["zzzz", "unknown"],
    "378-379 380-383 38b 38d 3a2 530 557-558 58b-58c 590 5c8-5cf 5eb-5ee 5f5-5ff 70e 74b-74c
      7b2-7bf 7fb-7fc 82e-82f 83f 85c-85d 85f 86b-86f 88f 892-896 984 98d-98e 991-992 9a9 9b1
      9b3-9b5 9ba-9bb 9c5-9c6 9c9-9ca 9cf-9d6 9d8-9db 9de 9e4-9e5 9ff-a00 a04 a0b-a0e a11-a12
      a29 a31 a34 a37 a3a-a3b a3d a43-a46 a49-a4a a4e-a50 a52-a58 a5d a5f-a65 a77-a80 a84 a8e
      a92 aa9 ab1 ab4 aba-abb ac6 aca ace-acf ad1-adf ae4-ae5 af2-af8 b00 b04 b0d-b0e b11-b12
      b29 b31 b34 b3a-b3b b45-b46 b49-b4a b4e-b54 b58-b5b b5e b64-b65 b78-b81 b84 b8b-b8d b91
      b96-b98 b9b b9d ba0-ba2 ba5-ba7 bab-bad bba-bbd bc3-bc5 bc9 bce-bcf bd1-bd6 bd8-be5
      bfb-bff c0d c11 c29 c3a-c3b c45 c49 c4e-c54 c57 c5b-c5c c5e-c5f c64-c65 c70-c76 c8d c91
      ca9 cb4 cba-cbb cc5 cc9 cce-cd4 cd7-cdc cdf ce4-ce5 cf0 cf4-cff d0d d11 d45 d49 d50-d53
      d64-d65 d80 d84 d97-d99 db2 dbc dbe-dbf dc7-dc9 dcb-dce dd5 dd7 de0-de5 df0-df1 df5-e00
      e3b-e3e e5c-e80 e83 e85 e8b ea4 ea6 ebe-ebf ec5 ec7 ecf eda-edb ee0-eff f48 f6d-f70 f98
      fbd fcd fdb-fff 10c6 10c8-10cc 10ce-10cf 1249 124e-124f 1257 1259 125e-125f 1289
      128e-128f 12b1 12b6-12b7 12bf 12c1 12c6-12c7 12d7 1311 1316-1317 135b-135c 137d-137f
      139a-139f 13f6-13f7 13fe-13ff 169d-169f 16f9-16ff 1716-171e 1737-173f 1754-175f 176d
      1771 1774-177f 17de-17df 17ea-17ef 17fa-17ff 181a-181f 1879-187f 18ab-18af 18f6-18ff
      191f 192c-192f 193c-193f 1941-1943 196e-196f 1975-197f 19ac-19af 19ca-19cf 19db-19dd
      1a1c-1a1d 1a5f 1a7d-1a7e 1a8a-1a8f 1a9a-1a9f 1aae-1aaf 1acf-1aff 1b4d 1bf4-1bfb
      1c38-1c3a 1c4a-1c4c 1c8b-1c8f 1cbb-1cbc 1cc8-1ccf 1cfb-1cff 1f16-1f17 1f1e-1f1f
      1f46-1f47 1f4e-1f4f 1f58/1f5e 1f7e-1f7f 1fb5 1fc5 1fd4-1fd5 1fdc 1ff0-1ff1 1ff5 1fff
      2065 2072-2073 208f 209d-209f 20c1-20cf 20f1-20ff 218c-218f 242a-243f 244b-245f
      2b74-2b75 2b96 2cf4-2cf8 2d26 2d28-2d2c 2d2e-2d2f 2d68-2d6e 2d71-2d7e 2d97-2d9f 2da7
      2daf 2db7 2dbf 2dc7 2dcf 2dd7 2ddf 2e5e-2e7f 2e9a 2ef4-2eff 2fd6-2fef 3040 3097-3098
      3100-3104 3130 318f 31e6-31ee 321f a48d-a48f a4c7-a4cf a62c-a63f a6f8-a6ff a7ce-a7cf
      a7d2 a7d4 a7dd-a7f1 a82d-a82f a83a-a83f a878-a87f a8c6-a8cd a8da-a8df a954-a95e
      a97d-a97f a9ce a9da-a9dd a9ff aa37-aa3f aa4e-aa4f aa5a-aa5b aac3-aada aaf7-ab00
      ab07-ab08 ab0f-ab10 ab17-ab1f ab27 ab2f ab6c-ab6f abee-abef abfa-abff d7a4-d7af
      d7c7-d7ca d7fc-f8ff fa6e-fa6f fada-faff fb07-fb12 fb18-fb1c fb37 fb3d fb3f fb42 fb45
      fbc3-fbd2 fd90-fd91 fdc8-fdce fdd0-fdef fe1a-fe1f fe53 fe67 fe6c-fe6f fe75 fefd-fefe
      ff00 ffbf-ffc1 ffc8-ffc9 ffd0-ffd1 ffd8-ffd9 ffdd-ffdf ffe7 ffef-fff8 fffe-ffff 1000c
      10027 1003b 1003e 1004e-1004f 1005e-1007f 100fb-100ff 10103-10106 10134-10136 1018f
      1019d-1019f 101a1-101cf 101fe-1027f 1029d-1029f 102d1-102df 102fc-102ff 10324-1032c
      1034b-1034f 1037b-1037f 1039e 103c4-103c7 103d6-103ff 1049e-1049f 104aa-104af
      104d4-104d7 104fc-104ff 10528-1052f 10564-1056e 1057b 1058b 10593 10596 105a2 105b2
      105ba 105bd-105bf 105f4-105ff 10737-1073f 10756-1075f 10768-1077f 10786 107b1
      107bb-107ff 10806-10807 10809 10836 10839-1083b 1083d-1083e 10856 1089f-108a6
      108b0-108df 108f3 108f6-108fa 1091c-1091e 1093a-1093e 10940-1097f 109b8-109bb
      109d0-109d1 10a04 10a07-10a0b 10a14 10a18 10a36-10a37 10a3b-10a3e 10a49-10a4f
      10a59-10a5f 10aa0-10abf 10ae7-10aea 10af7-10aff 10b36-10b38 10b56-10b57 10b73-10b77
      10b92-10b98 10b9d-10ba8 10bb0-10bff 10c49-10c7f 10cb3-10cbf 10cf3-10cf9 10d28-10d2f
      10d3a-10d3f 10d66-10d68 10d86-10d8d 10d90-10e5f 10e7f 10eaa 10eae-10eaf 10eb2-10ec1
      10ec5-10efb 10f28-10f2f 10f5a-10f6f 10f8a-10faf 10fcc-10fdf 10ff7-10fff 1104e-11051
      11076-1107e 110c3-110cc 110ce-110cf 110e9-110ef 110fa-110ff 11135 11148-1114f
      11177-1117f 111e0 111f5-111ff 11212 11242-1127f 11287 11289 1128e 1129e 112aa-112af
      112eb-112ef 112fa-112ff 11304 1130d-1130e 11311-11312 11329 11331 11334 1133a
      11345-11346 11349-1134a 1134e-1134f 11351-11356 11358-1135c 11364-11365 1136d-1136f
      11375-1137f 1138a 1138c-1138d 1138f 113b6 113c1 113c3-113c4 113c6 113cb 113d6
      113d9-113e0 113e3-113ff 1145c 11462-1147f 114c8-114cf 114da-1157f 115b6-115b7
      115de-115ff 11645-1164f 1165a-1165f 1166d-1167f 116ba-116bf 116ca-116cf 116e4-116ff
      1171b-1171c 1172c-1172f 11747-117ff 1183c-1189f 118f3-118fe 11907-11908 1190a-1190b
      11914 11917 11936 11939-1193a 11947-1194f 1195a-1199f 119a8-119a9 119d8-119d9
      119e5-119ff 11a48-11a4f 11aa3-11aaf 11af9-11aff 11b0a-11bbf 11be2-11bef 11bfa-11bff
      11c09 11c37 11c46-11c4f 11c6d-11c6f 11c90-11c91 11ca8 11cb7-11cff 11d07 11d0a
      11d37-11d39 11d3b 11d3e 11d48-11d4f 11d5a-11d5f 11d66 11d69 11d8f 11d92 11d99-11d9f
      11daa-11edf 11ef9-11eff 11f11 11f3b-11f3d 11f5b-11faf 11fb1-11fbf 11ff2-11ffe
      1239a-123ff 1246f 12475-1247f 12544-12f8f 12ff3-12fff 13456-1345f 143fb-143ff
      14647-160ff 1613a-167ff 16a39-16a3f 16a5f 16a6a-16a6d 16abf 16aca-16acf 16aee-16aef
      16af6-16aff 16b46-16b4f 16b5a 16b62 16b78-16b7c 16b90-16d3f 16d7a-16e3f 16e9b-16eff
      16f4b-16f4e 16f88-16f8e 16fa0-16fdf 16fe5-16fef 16ff2-16fff 187f8-187ff 18cd6-18cfe
      18d09-1afef 1aff4 1affc 1afff 1b123-1b131 1b133-1b14f 1b153-1b154 1b156-1b163
      1b168-1b16f 1b2fc-1bbff 1bc6b-1bc6f 1bc7d-1bc7f 1bc89-1bc8f 1bc9a-1bc9b 1bca4-1cbff
      1ccfa-1ccff 1ceb4-1ceff 1cf2e-1cf2f 1cf47-1cf4f 1cfc4-1cfff 1d0f6-1d0ff 1d127-1d128
      1d1eb-1d1ff 1d246-1d2bf 1d2d4-1d2df 1d2f4-1d2ff 1d357-1d35f 1d379-1d3ff 1d455 1d49d
      1d4a0-1d4a1 1d4a3-1d4a4 1d4a7-1d4a8 1d4ad 1d4ba 1d4bc 1d4c4 1d506 1d50b-1d50c 1d515
      1d51d 1d53a 1d53f 1d545 1d547-1d549 1d551 1d6a6-1d6a7 1d7cc-1d7cd 1da8c-1da9a 1daa0
      1dab0-1deff 1df1f-1df24 1df2b-1dfff 1e007 1e019-1e01a 1e022 1e025 1e02b-1e02f
      1e06e-1e08e 1e090-1e0ff 1e12d-1e12f 1e13e-1e13f 1e14a-1e14d 1e150-1e28f 1e2af-1e2bf
      1e2fa-1e2fe 1e300-1e4cf 1e4fa-1e5cf 1e5fb-1e5fe 1e600-1e7df 1e7e7 1e7ec 1e7ef 1e7ff
      1e8c5-1e8c6 1e8d7-1e8ff 1e94c-1e94f 1e95a-1e95d 1e960-1ec70 1ecb5-1ed00 1ed3e-1edff
      1ee04 1ee20 1ee23 1ee25-1ee26 1ee28 1ee33 1ee38 1ee3a 1ee3c-1ee41 1ee43-1ee46
      1ee48/1ee4c 1ee50 1ee53 1ee55-1ee56 1ee58/1ee60 1ee63 1ee65-1ee66 1ee6b 1ee73 1ee78
      1ee7d 1ee7f 1ee8a 1ee9c-1eea0 1eea4 1eeaa 1eebc-1eeef 1eef2-1efff 1f02c-1f02f
      1f094-1f09f 1f0af-1f0b0 1f0c0 1f0d0 1f0f6-1f0ff 1f1ae-1f1e5 1f203-1f20f 1f23c-1f23f
      1f249-1f24f 1f252-1f25f 1f266-1f2ff 1f6d8-1f6db 1f6ed-1f6ef 1f6fd-1f6ff 1f777-1f77a
      1f7da-1f7df 1f7ec-1f7ef 1f7f1-1f7ff 1f80c-1f80f 1f848-1f84f 1f85a-1f85f 1f888-1f88f
      1f8ae-1f8af 1f8bc-1f8bf 1f8c2-1f8ff 1fa54-1fa5f 1fa6e-1fa6f 1fa7d-1fa7f 1fa8a-1fa8e
      1fac7-1facd 1fadd-1fade 1faea-1faef 1faf9-1faff 1fb93 1fbfa-1ffff 2a6e0-2a6ff
      2b73a-2b73f 2b81e-2b81f 2cea2-2ceaf 2ebe1-2ebef 2ee5e-2f7ff 2fa1e-2ffff 3134b-3134f
      323b0-e0000 e0002-e001f e0080-e00ff e01f0-10ffff"⟩,
  ⟨["gara", "garay"],
    "10d40-10d65 10d69-10d85 10d8e-10d8f"⟩,
  ⟨["gukh", "gurungkhema"],
    "16100-16139"⟩,
  ⟨["krai", "kiratrai"],
    "16d40-16d79"⟩,
  ⟨["onao", "olonal"],
    "1e5d0-1e5fa 1e5ff"⟩,
  ⟨["sunu", "sunuwar"],
    "11bc0-11be1 11bf0-11bf9"⟩,
  ⟨["todr", "todhri"],
    "105c0-105f3"⟩,
  ⟨["tutg", "tulutigalari"],
    "11380-11389 1138b 1138e 11390-113b5 113b7-113c0 113c2 113c5 113c7-113ca 113cc-113d5
      113d7-113d8 113e1-113e2"⟩]

/-- The code points that are used with a script, where these are not those of the script itself. -/
def scriptExtensions : List Listing := [
  ⟨["adlm"],
    "61f 640 204f 2e41 1e900-1e94b 1e950-1e959 1e95e-1e95f"⟩,
  ⟨["aghb"],
    "304 331 35e 10530-10563 1056f"⟩,
  ⟨["arab"],
    "600-604 606-6dc 6de-6ff 750-77f 870-88e 890-891 897-8e1 8e3-8ff 204f 2e41 fb50-fbc2
      fbd3-fd8f fd92-fdc7 fdcf fdf0-fdff fe70-fe74 fe76-fefc 102e0-102fb 10e60-10e7e
      10ec2-10ec4 10efc-10eff 1ee00-1ee03 1ee05-1ee1f 1ee21-1ee22 1ee24 1ee27 1ee29-1ee32
      1ee34-1ee37 1ee39 1ee3b 1ee42 1ee47/1ee4b 1ee4d-1ee4f 1ee51-1ee52 1ee54 1ee57/1ee5f
      1ee61-1ee62 1ee64 1ee67-1ee6a 1ee6c-1ee72 1ee74-1ee77 1ee79-1ee7c 1ee7e 1ee80-1ee89
      1ee8b-1ee9b 1eea1-1eea3 1eea5-1eea9 1eeab-1eebb 1eef0-1eef1"⟩,
  ⟨["armn"],
    "308 531-556 559-58a 58d-58f fb13-fb17"⟩,
  ⟨["avst"],
    "b7 2e30-2e31 10b00-10b35 10b39-10b3f"⟩,
  ⟨["beng"],
    "2bc 951-952 964-965 980-983 985-98c 98f-990 993-9a8 9aa-9b0 9b2 9b6-9b9 9bc-9c4 9c7-9c8
      9cb-9ce 9d7 9dc-9dd 9df-9e3 9e6-9fe 1cd0 1cd2 1cd5-1cd6 1cd8 1ce1 1cea 1ced 1cf2
      1cf5-1cf7 a8f1"⟩,
  ⟨["bopo"],
    "2c7 2c9-2cb 2d9 2ea-2eb 3001-3003 3008-3011 3013-301f 302a-302d 3030 3037 30fb 3105-312f
      31a0-31bf fe45-fe46 ff61-ff65"⟩,
  ⟨["bugi"],
    "1a00-1a1b 1a1e-1a1f a9cf"⟩,
  ⟨["buhd"],
    "1735-1736 1740-1753"⟩,
  ⟨["cakm"],
    "9e6-9ef 1040-1049 11100-11134 11136-11147"⟩,
  ⟨["cari"],
    "b7 205a 205d 2e31 102a0-102d0"⟩,
  ⟨["cher"],
    "300-302 304 30b-30c 323-324 330-331 13a0-13f5 13f8-13fd ab70-abbf"⟩,
  ⟨["copt"],
    "b7 300 304-305 307 374-375 3e2-3ef 2c80-2cf3 2cf9-2cff 2e17 102e0-102fb"⟩,
  ⟨["cpmn"],
    "10100-10101 12f90-12ff2"⟩,
  ⟨["cprt"],
    "10100-10102 10107-10133 10137-1013f 10800-10805 10808 1080a-10835 10837-10838 1083c
      1083f"⟩,
  ⟨["cyrl"],
    "2bc 300-302 304/308 30b 311 400-52f 1c80-1c8a 1d2b 1d78 1df8 2de0-2dff 2e43 a640-a69f
      fe2e-fe2f 1e030-1e06d 1e08f"⟩,
  ⟨["deva"],
    "2bc 900-952 955-97f 1cd0-1cf6 1cf8-1cf9 20f0 a830-a839 a8e0-a8ff 11b00-11b09"⟩,
  ⟨["dogr"],
    "964-96f a830-a839 11800-1183b"⟩,
  ⟨["dupl"],
    "b7 307-308 30a 323-324 2e3c 1bc00-1bc6a 1bc70-1bc7c 1bc80-1bc88 1bc90-1bc99 1bc9c-1bca3"⟩,
  ⟨["elba"],
    "b7 305 10500-10527"⟩,
  ⟨["ethi"],
    "30e 1200-1248 124a-124d 1250-1256 1258 125a-125d 1260-1288 128a-128d 1290-12b0 12b2-12b5
      12b8-12be 12c0 12c2-12c5 12c8-12d6 12d8-1310 1312-1315 1318-135a 135d-137c 1380-1399
      2d80-2d96 2da0-2da6 2da8-2dae 2db0-2db6 2db8-2dbe 2dc0-2dc6 2dc8-2dce 2dd0-2dd6
      2dd8-2dde ab01-ab06 ab09-ab0e ab11-ab16 ab20-ab26 ab28-ab2e 1e7e0-1e7e6 1e7e8-1e7eb
      1e7ed-1e7ee 1e7f0-1e7fe"⟩,
  ⟨["geor"],
    "b7 589 10a0-10c5 10c7 10cd 10d0-10ff 1c90-1cba 1cbd-1cbf 205a 2d00-2d25 2d27 2d2d 2e31"⟩,
  ⟨["glag"],
    "b7 303 305 484 487 589 10fb 205a 2c00-2c5f 2e43 a66f 1e000-1e006 1e008-1e018 1e01b-1e021
      1e023-1e024 1e026-1e02a"⟩,
  ⟨["gong"],
    "b7 964-965 11d60-11d65 11d67-11d68 11d6a-11d8e 11d90-11d91 11d93-11d98 11da0-11da9"⟩,
  ⟨["gonm"],
    "964-965 11d00-11d06 11d08-11d09 11d0b-11d36 11d3a 11d3c-11d3d 11d3f-11d47 11d50-11d59"⟩,
  ⟨["goth"],
    "b7 304-305 308 331 10330-1034a"⟩,
  ⟨["gran"],
    "951-952 964-965 be6-bf3 1cd0 1cd2-1cd3 1cf2-1cf4 1cf8-1cf9 20f0 11300-11303 11305-1130c
      1130f-11310 11313-11328 1132a-11330 11332-11333 11335-11339 1133b-11344 11347-11348
      1134b-1134d 11350 11357 1135d-11363 11366-1136c 11370-11374 11fd0-11fd1 11fd3"⟩,
  ⟨["grek"],
    "b7 300-301 304/308 313 342 345 370-377 37a-37d 37f 384 386 388-38a 38c 38e-3a1 3a3-3e1
      3f0-3ff 1d26-1d2a 1d5d-1d61 1d66-1d6a 1dbf-1dc1 1f00-1f15 1f18-1f1d 1f20-1f45 1f48-1f4d
      1f50-1f57 1f59/1f5d 1f5f-1f7d 1f80-1fb4 1fb6-1fc4 1fc6-1fd3 1fd6-1fdb 1fdd-1fef
      1ff2-1ff4 1ff6-1ffe 205d 2126 ab65 10140-1018e 101a0 1d200-1d245"⟩,
  ⟨["gujr"],
    "951-952 964-965 a81-a83 a85-a8d a8f-a91 a93-aa8 aaa-ab0 ab2-ab3 ab5-ab9 abc-ac5 ac7-ac9
      acb-acd ad0 ae0-ae3 ae6-af1 af9-aff a830-a839"⟩,
  ⟨["guru"],
    "951-952 964-965 a01-a03 a05-a0a a0f-a10 a13-a28 a2a-a30 a32-a33 a35-a36 a38-a39 a3c
      a3e-a42 a47-a48 a4b-a4d a51 a59-a5c a5e a66-a76 a830-a839"⟩,
  ⟨["hang"],
    "1100-11ff 3001-3003 3008-3011 3013-301f 302e-3030 3037 30fb 3131-318e 3200-321e
      3260-327e a960-a97c ac00-d7a3 d7b0-d7c6 d7cb-d7fb fe45-fe46 ff61-ff65 ffa0-ffbe
      ffc2-ffc7 ffca-ffcf ffd2-ffd7 ffda-ffdc"⟩,
  ⟨["hani"],
    "b7 2e80-2e99 2e9b-2ef3 2f00-2fd5 2ff0-2fff 3001-3003 3005-3011 3013-301f 3021-302d 3030
      3037-303f 30fb 3190-319f 31c0-31e5 31ef 3220-3247 3280-32b0 32c0-32cb 32ff 3358-3370
      337b-337f 33e0-33fe 3400-4dbf 4e00-9fff a700-a707 f900-fa6d fa70-fad9 fe45-fe46
      ff61-ff65 16fe2-16fe3 16ff0-16ff1 1d360-1d371 1f250-1f251 20000-2a6df 2a700-2b739
      2b740-2b81d 2b820-2cea1 2ceb0-2ebe0 2ebf0-2ee5d 2f800-2fa1d 30000-3134a 31350-323af"⟩,
  ⟨["hano"],
    "1720-1736"⟩,
  ⟨["hebr"],
    "307-308 591-5c7 5d0-5ea 5ef-5f4 fb1d-fb36 fb38-fb3c fb3e fb40-fb41 fb43-fb44 fb46-fb4f"⟩,
  ⟨["hira"],
    "3001-3003 3008-3011 3013-301f 3030-3035 3037 303c-303d 3041-3096 3099-30a0 30fb-30fc
      fe45-fe46 ff61-ff65 ff70 ff9e-ff9f 1b001-1b11f 1b132 1b150-1b152 1f200"⟩,
  ⟨["hung"],
    "205a 205d 2e31 2e41 10c80-10cb2 10cc0-10cf2 10cfa-10cff"⟩,
  ⟨["java"],
    "a980-a9cd a9cf-a9d9 a9de-a9df"⟩,
  ⟨["kali"],
    "a900-a92f"⟩,
  ⟨["kana"],
    "305 323 3001-3003 3008-3011 3013-301f 3030-3035 3037 303c-303d 3099-309c 30a0-30ff
      31f0-31ff 32d0-32fe 3300-3357 fe45-fe46 ff61-ff9f 1aff0-1aff3 1aff5-1affb 1affd-1affe
      1b000 1b120-1b122 1b155 1b164-1b167"⟩,
  ⟨["khoj"],
    "ae6-aef a830-a839 11200-11211 11213-11241"⟩,
  ⟨["knda"],
    "951-952 964-965 c80-c8c c8e-c90 c92-ca8 caa-cb3 cb5-cb9 cbc-cc4 cc6-cc8 cca-ccd cd5-cd6
      cdd-cde ce0-ce3 ce6-cef cf1-cf3 1cd0 1cd2-1cd3 1cda 1cf2 1cf4 a830-a835"⟩,
  ⟨["kthi"],
    "966-96f 2e31 a830-a839 11080-110c2 110cd"⟩,
  ⟨["latn"],
    "41-5a 61-7a aa b7 ba c0-d6 d8-f6 f8-2b8 2bc 2c7 2c9-2cb 2cd 2d7 2d9 2e0-2e4 300-30e
      310-311 313 323-325 32d-32e 330-331 358 35e 363-36f 485-486 951-952 10fb 1d00-1d25
      1d2c-1d5c 1d62-1d65 1d6b-1d77 1d79-1dbe 1df8 1e00-1eff 202f 2071 207f 2090-209c 20f0
      212a-212b 2132 214e 2160-2188 2c60-2c7f 2e17 a700-a707 a722-a787 a78b-a7cd a7d0-a7d1
      a7d3 a7d5-a7dc a7f2-a7ff a92e ab30-ab5a ab5c-ab64 ab66-ab69 fb00-fb06 ff21-ff3a
      ff41-ff5a 10780-10785 10787-107b0 107b2-107ba 1df00-1df1e 1df25-1df2a"⟩,
  ⟨["limb"],
    "965 1900-191e 1920-192b 1930-193b 1940 1944-194f"⟩,
  ⟨["lina"],
    "10107-10133 10600-10736 10740-10755 10760-10767"⟩,
  ⟨["linb"],
    "10000-1000b 1000d-10026 10028-1003a 1003c-1003d 1003f-1004d 10050-1005d 10080-100fa
      10100-10102 10107-10133 10137-1013f"⟩,
  ⟨["lisu"],
    "2bc 2cd 300a-300b a4d0-a4ff 11fb0"⟩,
  ⟨["lyci"],
    "205a 10280-1029c"⟩,
  ⟨["lydi"],
    "b7 2e31 10920-10939 1093f"⟩,
  ⟨["mahj"],
    "b7 964-96f a830-a839 11150-11176"⟩,
  ⟨["mand"],
    "640 840-85b 85e"⟩,
  ⟨["mani"],
    "640 10ac0-10ae6 10aeb-10af6"⟩,
  ⟨["mero"],
    "205d 10980-1099f"⟩,
  ⟨["mlym"],
    "951-952 964-965 d00-d0c d0e-d10 d12-d44 d46-d48 d4a-d4f d54-d63 d66-d7f 1cda 1cf2
      a830-a832"⟩,
  ⟨["modi"],
    "a830-a839 11600-11644 11650-11659"⟩,
  ⟨["mong"],
    "1800-1819 1820-1878 1880-18aa 202f 3001-3002 3008-300b 11660-1166c"⟩,
  ⟨["mult"],
    "a66-a6f 11280-11286 11288 1128a-1128d 1128f-1129d 1129f-112a9"⟩,
  ⟨["mymr"],
    "1000-109f a92e a9e0-a9fe aa60-aa7f 116d0-116e3"⟩,
  ⟨["nand"],
    "951 964-965 ce6-cef 1ce9 1cf2 1cfa a830-a835 119a0-119a7 119aa-119d7 119da-119e4"⟩,
  ⟨["newa"],
    "951-952 1cd5 1cd7-1cd8 1ce2 1ce9/1ced 11400-1145b 1145d-11461"⟩,
  ⟨["nkoo"],
    "60c 61b 61f 7c0-7fa 7fd-7ff fd3e-fd3f"⟩,
  ⟨["orkh"],
    "205a 2e30 10c00-10c48"⟩,
  ⟨["orya"],
    "951-952 964-965 b01-b03 b05-b0c b0f-b10 b13-b28 b2a-b30 b32-b33 b35-b39 b3c-b44 b47-b48
      b4b-b4d b55-b57 b5c-b5d b5f-b63 b66-b77 1cda 1cf2"⟩,
  ⟨["osge"],
    "301 304 30b 358 104b0-104d3 104d8-104fb"⟩,
  ⟨["ougr"],
    "640 10af2 10f70-10f89"⟩,
  ⟨["perm"],
    "b7 300 306-308 313 483 10350-1037a"⟩,
  ⟨["phag"],
    "1802-1803 1805 202f 3002 a840-a877"⟩,
  ⟨["phlp"],
    "640 10b80-10b91 10b99-10b9c 10ba9-10baf"⟩,
  ⟨["rohg"],
    "60c 61b 61f 640 6d4 10d00-10d27 10d30-10d39"⟩,
  ⟨["runr"],
    "16a0-16f8"⟩,
  ⟨["samr"],
    "800-82d 830-83e 2e31"⟩,
  ⟨["shaw"],
    "b7 10450-1047f"⟩,
  ⟨["shrd"],
    "951 1cd7 1cd9 1cdc-1cdd 1ce0 1cea 1ced a830-a835 a838 11180-111df"⟩,
  ⟨["sind"],
    "964-965 a830-a839 112b0-112ea 112f0-112f9"⟩,
  ⟨["sinh"],
    "964-965 d81-d83 d85-d96 d9a-db1 db3-dbb dbd dc0-dc6 dca dcf-dd4 dd6 dd8-ddf de6-def
      df2-df4 1cf2 111e1-111f4"⟩,
  ⟨["sogd"],
    "640 10f30-10f59"⟩,
  ⟨["sylo"],
    "964-965 9e6-9ef a800-a82c"⟩,
  ⟨["syrc"],
    "303-304 307-308 30a 323-325 32d-32e 330-331 60c 61b-61c 61f 640 64b-655 670 700-70d
      70f-74a 74d-74f 860-86a 1df8 1dfa"⟩,
  ⟨["tagb"],
    "1735-1736 1760-176c 176e-1770 1772-1773"⟩,
  ⟨["takr"],
    "964-965 a830-a839 11680-116b9 116c0-116c9"⟩,
  ⟨["tale"],
    "300-301 307-308 30c 1040-1049 1950-196d 1970-1974"⟩,
  ⟨["taml"],
    "951-952 964-965 b82-b83 b85-b8a b8e-b90 b92-b95 b99-b9a b9c b9e-b9f ba3-ba4 ba8-baa
      bae-bb9 bbe-bc2 bc6-bc8 bca-bcd bd0 bd7 be6-bfa 1cda a8f3 11301 11303 1133b-1133c
      11fc0-11ff1 11fff"⟩,
  ⟨["tang"],
    "2ff0-2fff 31ef 16fe0 17000-187f7 18800-18aff 18d00-18d08"⟩,
  ⟨["telu"],
    "951-952 964-965 c00-c0c c0e-c10 c12-c28 c2a-c39 c3c-c44 c46-c48 c4a-c4d c55-c56 c58-c5a
      c5d c60-c63 c66-c6f c77-c7f 1cd5-1cd6 1cd8 1cda 1cf2"⟩,
  ⟨["tfng"],
    "302 304 306-309 323 2d30-2d67 2d6f-2d70 2d7f"⟩,
  ⟨["tglg"],
    "1700-1715 171f 1735-1736"⟩,
  ⟨["thaa"],
    "60c 61b-61c 61f 660-669 780-7b1 fdf2 fdfd"⟩,
  ⟨["thai"],
    "2bc 2d7 303 331 e01-e3a e40-e5b"⟩,
  ⟨["tibt"],
    "f00-f47 f49-f6c f71-f97 f99-fbc fbe-fcc fce-fd4 fd9-fda 3008-300b"⟩,
  ⟨["tirh"],
    "951-952 964-965 1cd5 1ce2 1cf2 a830-a839 11480-114c7 114d0-114d9"⟩,
  ⟨["toto"],
    "2bc 1e290-1e2ae"⟩,
  ⟨["yezi"],
    "60c 61b 61f 660-669 10e80-10ea9 10eab-10ead 10eb0-10eb1"⟩,
  ⟨["yiii"],
    "3001-3002 3008-3011 3014-301b 30fb a000-a48c a490-a4c6 ff61-ff65"⟩,
  ⟨["zinh"],
    "30f 312 314-322 326-32c 32f 332-341 343-344 346-357 359-35d 35f-362 953-954 1ab0-1ace
      1dc2-1df7 1df9 1dfb-1dff 200c-200d 20d0-20ef fe00-fe0f fe20-fe2d 101fd 1cf00-1cf2d
      1cf30-1cf46 1d167-1d169 1d17b-1d182 1d185-1d18b 1d1aa-1d1ad e0100-e01ef"⟩,
  ⟨["zyyy"],
    "0-40 5b-60 7b-a9 ab-b6 b8-b9 bb-bf d7 f7 2b9-2bb 2bd-2c6 2c8 2cc 2ce-2d6 2d8 2da-2df
      2e5-2e9 2ec-2ff 37e 385 387 605 6dd 8e2 e3f fd5-fd8 2000-200b 200e-202e 2030-204e
      2050-2059 205b-205c 205e-2064 2066-2070 2074-207e 2080-208e 20a0-20c0 2100-2125
      2127-2129 212c-2131 2133-214d 214f-215f 2189-218b 2190-2429 2440-244a 2460-27ff
      2900-2b73 2b76-2b95 2b97-2bff 2e00-2e16 2e18-2e2f 2e32-2e3b 2e3d-2e40 2e42 2e44-2e5d
      3000 3004 3012 3020 3036 3248-325f 327f 32b1-32bf 32cc-32cf 3371-337a 3380-33df 33ff
      4dc0-4dff a708-a721 a788-a78a ab5b ab6a-ab6b fe10-fe19 fe30-fe44 fe47-fe52 fe54-fe66
      fe68-fe6b feff ff01-ff20 ff3b-ff40 ff5b-ff60 ffe0-ffe6 ffe8-ffee fff9-fffd 10190-1019c
      101d0-101fc 1cc00-1ccf9 1cd00-1ceb3 1cf50-1cfc3 1d000-1d0f5 1d100-1d126 1d129-1d166
      1d16a-1d17a 1d183-1d184 1d18c-1d1a9 1d1ae-1d1ea 1d2c0-1d2d3 1d2e0-1d2f3 1d300-1d356
      1d372-1d378 1d400-1d454 1d456-1d49c 1d49e-1d49f 1d4a2 1d4a5-1d4a6 1d4a9-1d4ac
      1d4ae-1d4b9 1d4bb 1d4bd-1d4c3 1d4c5-1d505 1d507-1d50a 1d50d-1d514 1d516-1d51c
      1d51e-1d539 1d53b-1d53e 1d540-1d544 1d546 1d54a-1d550 1d552-1d6a5 1d6a8-1d7cb
      1d7ce-1d7ff 1ec71-1ecb4 1ed01-1ed3d 1f000-1f02b 1f030-1f093 1f0a0-1f0ae 1f0b1-1f0bf
      1f0c1-1f0cf 1f0d1-1f0f5 1f100-1f1ad 1f1e6-1f1ff 1f201-1f202 1f210-1f23b 1f240-1f248
      1f260-1f265 1f300-1f6d7 1f6dc-1f6ec 1f6f0-1f6fc 1f700-1f776 1f77b-1f7d9 1f7e0-1f7eb
      1f7f0 1f800-1f80b 1f810-1f847 1f850-1f859 1f860-1f887 1f890-1f8ad 1f8b0-1f8bb
      1f8c0-1f8c1 1f900-1fa53 1fa60-1fa6d 1fa70-1fa7c 1fa80-1fa89 1fa8f-1fac6 1face-1fadc
      1fadf-1fae9 1faf0-1faf8 1fb00-1fb92 1fb94-1fbf9 e0001 e0020-e007f"⟩,
  ⟨["gara"],
    "60c 61b 61f 10d40-10d65 10d69-10d85 10d8e-10d8f"⟩,
  ⟨["gukh"],
    "965 16100-16139"⟩,
  ⟨["onao"],
    "964-965 1e5d0-1e5fa 1e5ff"⟩,
  ⟨["sunu"],
    "300-301 303 30d 310 32d 331 11bc0-11be1 11bf0-11bf9"⟩,
  ⟨["todr"],
    "301 304 307 311 313 35e 105c0-105f3"⟩,
  ⟨["tutg"],
    "ce6-cef 1cf2 1cf4 a830-a835 a8f1 11380-11389 1138b 1138e 11390-113b5 113b7-113c0 113c2
      113c5 113c7-113ca 113cc-113d5 113d7-113d8 113e1-113e2"⟩]

end MapQuery.Character
