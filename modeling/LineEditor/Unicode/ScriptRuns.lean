import LineEditor.Unicode.Table

/-! The script of every code point and the scripts it is shared by, as runs of the code space. -/

namespace LineEditor.Unicode

/-- Each script: its four-letter code, then its longer names. -/
def scriptNames : List String :=
  ["Adlm|Adlam Aghb|Caucasian_Albanian Ahom|Ahom Arab|Arabic Armi|Imperial_Aramaic",
   "Armn|Armenian Avst|Avestan Bali|Balinese Bamu|Bamum Bass|Bassa_Vah Batk|Batak Beng|Bengali",
   "Bhks|Bhaiksuki Bopo|Bopomofo Brah|Brahmi Brai|Braille Bugi|Buginese Buhd|Buhid Cakm|Chakma",
   "Cans|Canadian_Aboriginal Cari|Carian Cham|Cham Cher|Cherokee Chrs|Chorasmian",
   "Copt|Coptic|Qaac Cpmn|Cypro_Minoan Cprt|Cypriot Cyrl|Cyrillic Deva|Devanagari",
   "Diak|Dives_Akuru Dogr|Dogra Dsrt|Deseret Dupl|Duployan Egyp|Egyptian_Hieroglyphs",
   "Elba|Elbasan Elym|Elymaic Ethi|Ethiopic Geor|Georgian Glag|Glagolitic Gong|Gunjala_Gondi",
   "Gonm|Masaram_Gondi Goth|Gothic Gran|Grantha Grek|Greek Gujr|Gujarati Guru|Gurmukhi",
   "Hang|Hangul Hani|Han Hano|Hanunoo Hatr|Hatran Hebr|Hebrew Hira|Hiragana",
   "Hluw|Anatolian_Hieroglyphs Hmng|Pahawh_Hmong Hmnp|Nyiakeng_Puachue_Hmong",
   "Hung|Old_Hungarian Ital|Old_Italic Java|Javanese Kali|Kayah_Li Kana|Katakana Kawi|Kawi",
   "Khar|Kharoshthi Khmr|Khmer Khoj|Khojki Kits|Khitan_Small_Script Knda|Kannada Kthi|Kaithi",
   "Lana|Tai_Tham Laoo|Lao Latn|Latin Lepc|Lepcha Limb|Limbu Lina|Linear_A Linb|Linear_B",
   "Lisu|Lisu Lyci|Lycian Lydi|Lydian Mahj|Mahajani Maka|Makasar Mand|Mandaic Mani|Manichaean",
   "Marc|Marchen Medf|Medefaidrin Mend|Mende_Kikakui Merc|Meroitic_Cursive",
   "Mero|Meroitic_Hieroglyphs Mlym|Malayalam Modi|Modi Mong|Mongolian Mroo|Mro",
   "Mtei|Meetei_Mayek Mult|Multani Mymr|Myanmar Nagm|Nag_Mundari Nand|Nandinagari",
   "Narb|Old_North_Arabian Nbat|Nabataean Newa|Newa Nkoo|Nko Nshu|Nushu Ogam|Ogham",
   "Olck|Ol_Chiki Orkh|Old_Turkic Orya|Oriya Osge|Osage Osma|Osmanya Ougr|Old_Uyghur",
   "Palm|Palmyrene Pauc|Pau_Cin_Hau Perm|Old_Permic Phag|Phags_Pa Phli|Inscriptional_Pahlavi",
   "Phlp|Psalter_Pahlavi Phnx|Phoenician Plrd|Miao Prti|Inscriptional_Parthian Rjng|Rejang",
   "Rohg|Hanifi_Rohingya Runr|Runic Samr|Samaritan Sarb|Old_South_Arabian Saur|Saurashtra",
   "Sgnw|SignWriting Shaw|Shavian Shrd|Sharada Sidd|Siddham Sind|Khudawadi Sinh|Sinhala",
   "Sogd|Sogdian Sogo|Old_Sogdian Sora|Sora_Sompeng Soyo|Soyombo Sund|Sundanese",
   "Sylo|Syloti_Nagri Syrc|Syriac Tagb|Tagbanwa Takr|Takri Tale|Tai_Le Talu|New_Tai_Lue",
   "Taml|Tamil Tang|Tangut Tavt|Tai_Viet Telu|Telugu Tfng|Tifinagh Tglg|Tagalog Thaa|Thaana",
   "Thai|Thai Tibt|Tibetan Tirh|Tirhuta Tnsa|Tangsa Toto|Toto Ugar|Ugaritic Vaii|Vai",
   "Vith|Vithkuqi Wara|Warang_Citi Wcho|Wancho Xpeo|Old_Persian Xsux|Cuneiform Yezi|Yezidi",
   "Yiii|Yi Zanb|Zanabazar_Square Zinh|Inherited|Qaai Zyyy|Common Gara|Garay Gukh|Gurung_Khema",
   "Krai|Kirat_Rai Onao|Ol_Onal Sunu|Sunuwar Todr|Todhri Tutg|Tulu_Tigalari"]

/-- Consecutive runs of one script: the four-letter code and the number of code points. -/
def scriptRuns : List String :=
  ["Zyyy:65 Latn:26 Zyyy:6 Latn:26 Zyyy:47 Latn:1 Zyyy:15 Latn:1 Zyyy:5 Latn:23 Zyyy:1 Latn:31",
   "Zyyy:1 Latn:449 Zyyy:39 Latn:5 Zyyy:5 Bopo:2 Zyyy:20 Zinh:112 Grek:4 Zyyy:1 Grek:3 Zzzz:2",
   "Grek:4 Zyyy:1 Grek:1 Zzzz:4 Grek:1 Zyyy:1 Grek:1 Zyyy:1 Grek:3 Zzzz:1 Grek:1 Zzzz:1",
   "Grek:20 Zzzz:1 Grek:63 Copt:14 Grek:16 Cyrl:133 Zinh:2 Cyrl:169 Zzzz:1 Armn:38 Zzzz:2",
   "Armn:50 Zzzz:2 Armn:3 Zzzz:1 Hebr:55 Zzzz:8 Hebr:27 Zzzz:4 Hebr:6 Zzzz:11 Arab:5 Zyyy:1",
   "Arab:6 Zyyy:1 Arab:14 Zyyy:1 Arab:3 Zyyy:1 Arab:32 Zyyy:1 Arab:10 Zinh:11 Arab:26 Zinh:1",
   "Arab:108 Zyyy:1 Arab:34 Syrc:14 Zzzz:1 Syrc:60 Zzzz:2 Syrc:3 Arab:48 Thaa:50 Zzzz:14",
   "Nkoo:59 Zzzz:2 Nkoo:3 Samr:46 Zzzz:2 Samr:15 Zzzz:1 Mand:28 Zzzz:2 Mand:1 Zzzz:1 Syrc:11",
   "Zzzz:5 Arab:31 Zzzz:1 Arab:2 Zzzz:5 Arab:75 Zyyy:1 Arab:29 Deva:81 Zinh:4 Deva:15 Zyyy:2",
   "Deva:26 Beng:4 Zzzz:1 Beng:8 Zzzz:2 Beng:2 Zzzz:2 Beng:22 Zzzz:1 Beng:7 Zzzz:1 Beng:1",
   "Zzzz:3 Beng:4 Zzzz:2 Beng:9 Zzzz:2 Beng:2 Zzzz:2 Beng:4 Zzzz:8 Beng:1 Zzzz:4 Beng:2 Zzzz:1",
   "Beng:5 Zzzz:2 Beng:25 Zzzz:2 Guru:3 Zzzz:1 Guru:6 Zzzz:4 Guru:2 Zzzz:2 Guru:22 Zzzz:1",
   "Guru:7 Zzzz:1 Guru:2 Zzzz:1 Guru:2 Zzzz:1 Guru:2 Zzzz:2 Guru:1 Zzzz:1 Guru:5 Zzzz:4 Guru:2",
   "Zzzz:2 Guru:3 Zzzz:3 Guru:1 Zzzz:7 Guru:4 Zzzz:1 Guru:1 Zzzz:7 Guru:17 Zzzz:10 Gujr:3",
   "Zzzz:1 Gujr:9 Zzzz:1 Gujr:3 Zzzz:1 Gujr:22 Zzzz:1 Gujr:7 Zzzz:1 Gujr:2 Zzzz:1 Gujr:5",
   "Zzzz:2 Gujr:10 Zzzz:1 Gujr:3 Zzzz:1 Gujr:3 Zzzz:2 Gujr:1 Zzzz:15 Gujr:4 Zzzz:2 Gujr:12",
   "Zzzz:7 Gujr:7 Zzzz:1 Orya:3 Zzzz:1 Orya:8 Zzzz:2 Orya:2 Zzzz:2 Orya:22 Zzzz:1 Orya:7",
   "Zzzz:1 Orya:2 Zzzz:1 Orya:5 Zzzz:2 Orya:9 Zzzz:2 Orya:2 Zzzz:2 Orya:3 Zzzz:7 Orya:3 Zzzz:4",
   "Orya:2 Zzzz:1 Orya:5 Zzzz:2 Orya:18 Zzzz:10 Taml:2 Zzzz:1 Taml:6 Zzzz:3 Taml:3 Zzzz:1",
   "Taml:4 Zzzz:3 Taml:2 Zzzz:1 Taml:1 Zzzz:1 Taml:2 Zzzz:3 Taml:2 Zzzz:3 Taml:3 Zzzz:3",
   "Taml:12 Zzzz:4 Taml:5 Zzzz:3 Taml:3 Zzzz:1 Taml:4 Zzzz:2 Taml:1 Zzzz:6 Taml:1 Zzzz:14",
   "Taml:21 Zzzz:5 Telu:13 Zzzz:1 Telu:3 Zzzz:1 Telu:23 Zzzz:1 Telu:16 Zzzz:2 Telu:9 Zzzz:1",
   "Telu:3 Zzzz:1 Telu:4 Zzzz:7 Telu:2 Zzzz:1 Telu:3 Zzzz:2 Telu:1 Zzzz:2 Telu:4 Zzzz:2",
   "Telu:10 Zzzz:7 Telu:9 Knda:13 Zzzz:1 Knda:3 Zzzz:1 Knda:23 Zzzz:1 Knda:10 Zzzz:1 Knda:5",
   "Zzzz:2 Knda:9 Zzzz:1 Knda:3 Zzzz:1 Knda:4 Zzzz:7 Knda:2 Zzzz:6 Knda:2 Zzzz:1 Knda:4 Zzzz:2",
   "Knda:10 Zzzz:1 Knda:3 Zzzz:12 Mlym:13 Zzzz:1 Mlym:3 Zzzz:1 Mlym:51 Zzzz:1 Mlym:3 Zzzz:1",
   "Mlym:6 Zzzz:4 Mlym:16 Zzzz:2 Mlym:26 Zzzz:1 Sinh:3 Zzzz:1 Sinh:18 Zzzz:3 Sinh:24 Zzzz:1",
   "Sinh:9 Zzzz:1 Sinh:1 Zzzz:2 Sinh:7 Zzzz:3 Sinh:1 Zzzz:4 Sinh:6 Zzzz:1 Sinh:1 Zzzz:1 Sinh:8",
   "Zzzz:6 Sinh:10 Zzzz:2 Sinh:3 Zzzz:12 Thai:58 Zzzz:4 Zyyy:1 Thai:28 Zzzz:37 Laoo:2 Zzzz:1",
   "Laoo:1 Zzzz:1 Laoo:5 Zzzz:1 Laoo:24 Zzzz:1 Laoo:1 Zzzz:1 Laoo:23 Zzzz:2 Laoo:5 Zzzz:1",
   "Laoo:1 Zzzz:1 Laoo:7 Zzzz:1 Laoo:10 Zzzz:2 Laoo:4 Zzzz:32 Tibt:72 Zzzz:1 Tibt:36 Zzzz:4",
   "Tibt:39 Zzzz:1 Tibt:36 Zzzz:1 Tibt:15 Zzzz:1 Tibt:7 Zyyy:4 Tibt:2 Zzzz:37 Mymr:160 Geor:38",
   "Zzzz:1 Geor:1 Zzzz:5 Geor:1 Zzzz:2 Geor:43 Zyyy:1 Geor:4 Hang:256 Ethi:73 Zzzz:1 Ethi:4",
   "Zzzz:2 Ethi:7 Zzzz:1 Ethi:1 Zzzz:1 Ethi:4 Zzzz:2 Ethi:41 Zzzz:1 Ethi:4 Zzzz:2 Ethi:33",
   "Zzzz:1 Ethi:4 Zzzz:2 Ethi:7 Zzzz:1 Ethi:1 Zzzz:1 Ethi:4 Zzzz:2 Ethi:15 Zzzz:1 Ethi:57",
   "Zzzz:1 Ethi:4 Zzzz:2 Ethi:67 Zzzz:2 Ethi:32 Zzzz:3 Ethi:26 Zzzz:6 Cher:86 Zzzz:2 Cher:6",
   "Zzzz:2 Cans:640 Ogam:29 Zzzz:3 Runr:75 Zyyy:3 Runr:11 Zzzz:7 Tglg:22 Zzzz:9 Tglg:1 Hano:21",
   "Zyyy:2 Zzzz:9 Buhd:20 Zzzz:12 Tagb:13 Zzzz:1 Tagb:3 Zzzz:1 Tagb:2 Zzzz:12 Khmr:94 Zzzz:2",
   "Khmr:10 Zzzz:6 Khmr:10 Zzzz:6 Mong:2 Zyyy:2 Mong:1 Zyyy:1 Mong:20 Zzzz:6 Mong:89 Zzzz:7",
   "Mong:43 Zzzz:5 Cans:70 Zzzz:10 Limb:31 Zzzz:1 Limb:12 Zzzz:4 Limb:12 Zzzz:4 Limb:1 Zzzz:3",
   "Limb:12 Tale:30 Zzzz:2 Tale:5 Zzzz:11 Talu:44 Zzzz:4 Talu:26 Zzzz:6 Talu:11 Zzzz:3 Talu:2",
   "Khmr:32 Bugi:28 Zzzz:2 Bugi:2 Lana:63 Zzzz:1 Lana:29 Zzzz:2 Lana:11 Zzzz:6 Lana:10 Zzzz:6",
   "Lana:14 Zzzz:2 Zinh:31 Zzzz:49 Bali:77 Zzzz:1 Bali:50 Sund:64 Batk:52 Zzzz:8 Batk:4",
   "Lepc:56 Zzzz:3 Lepc:15 Zzzz:3 Lepc:3 Olck:48 Cyrl:11 Zzzz:5 Geor:43 Zzzz:2 Geor:3 Sund:8",
   "Zzzz:8 Zinh:3 Zyyy:1 Zinh:13 Zyyy:1 Zinh:7 Zyyy:4 Zinh:1 Zyyy:6 Zinh:1 Zyyy:3 Zinh:2",
   "Zyyy:1 Zzzz:5 Latn:38 Grek:5 Cyrl:1 Latn:49 Grek:5 Latn:4 Grek:5 Latn:13 Cyrl:1 Latn:70",
   "Grek:1 Zinh:64 Latn:256 Grek:22 Zzzz:2 Grek:6 Zzzz:2 Grek:38 Zzzz:2 Grek:6 Zzzz:2 Grek:8",
   "Zzzz:1 Grek:1 Zzzz:1 Grek:1 Zzzz:1 Grek:1 Zzzz:1 Grek:31 Zzzz:2 Grek:53 Zzzz:1 Grek:15",
   "Zzzz:1 Grek:14 Zzzz:2 Grek:6 Zzzz:1 Grek:19 Zzzz:2 Grek:3 Zzzz:1 Grek:9 Zzzz:1 Zyyy:12",
   "Zinh:2 Zyyy:87 Zzzz:1 Zyyy:11 Latn:1 Zzzz:2 Zyyy:11 Latn:1 Zyyy:15 Zzzz:1 Latn:13 Zzzz:3",
   "Zyyy:33 Zzzz:15 Zinh:33 Zzzz:15 Zyyy:38 Grek:1 Zyyy:3 Latn:2 Zyyy:6 Latn:1 Zyyy:27 Latn:1",
   "Zyyy:17 Latn:41 Zyyy:3 Zzzz:4 Zyyy:666 Zzzz:22 Zyyy:11 Zzzz:21 Zyyy:928 Brai:256 Zyyy:628",
   "Zzzz:2 Zyyy:32 Zzzz:1 Zyyy:105 Glag:96 Latn:32 Copt:116 Zzzz:5 Copt:7 Geor:38 Zzzz:1",
   "Geor:1 Zzzz:5 Geor:1 Zzzz:2 Tfng:56 Zzzz:7 Tfng:2 Zzzz:14 Tfng:1 Ethi:23 Zzzz:9 Ethi:7",
   "Zzzz:1 Ethi:7 Zzzz:1 Ethi:7 Zzzz:1 Ethi:7 Zzzz:1 Ethi:7 Zzzz:1 Ethi:7 Zzzz:1 Ethi:7 Zzzz:1",
   "Ethi:7 Zzzz:1 Cyrl:32 Zyyy:94 Zzzz:34 Hani:26 Zzzz:1 Hani:89 Zzzz:12 Hani:214 Zzzz:26",
   "Zyyy:21 Hani:1 Zyyy:1 Hani:1 Zyyy:25 Hani:9 Zinh:4 Hang:2 Zyyy:8 Hani:4 Zyyy:4 Zzzz:1",
   "Hira:86 Zzzz:2 Zinh:2 Zyyy:2 Hira:3 Zyyy:1 Kana:90 Zyyy:2 Kana:3 Zzzz:5 Bopo:43 Zzzz:1",
   "Hang:94 Zzzz:1 Zyyy:16 Bopo:32 Zyyy:38 Zzzz:9 Zyyy:1 Kana:16 Hang:31 Zzzz:1 Zyyy:64",
   "Hang:31 Zyyy:81 Kana:47 Zyyy:1 Kana:88 Zyyy:168 Hani:6592 Zyyy:64 Hani:20992 Yiii:1165",
   "Zzzz:3 Yiii:55 Zzzz:9 Lisu:48 Vaii:300 Zzzz:20 Cyrl:96 Bamu:88 Zzzz:8 Zyyy:34 Latn:102",
   "Zyyy:3 Latn:67 Zzzz:2 Latn:2 Zzzz:1 Latn:1 Zzzz:1 Latn:8 Zzzz:21 Latn:14 Sylo:45 Zzzz:3",
   "Zyyy:10 Zzzz:6 Phag:56 Zzzz:8 Saur:70 Zzzz:8 Saur:12 Zzzz:6 Deva:32 Kali:46 Zyyy:1 Kali:1",
   "Rjng:36 Zzzz:11 Rjng:1 Hang:29 Zzzz:3 Java:78 Zzzz:1 Zyyy:1 Java:10 Zzzz:4 Java:2 Mymr:31",
   "Zzzz:1 Cham:55 Zzzz:9 Cham:14 Zzzz:2 Cham:10 Zzzz:2 Cham:4 Mymr:32 Tavt:67 Zzzz:24 Tavt:5",
   "Mtei:23 Zzzz:10 Ethi:6 Zzzz:2 Ethi:6 Zzzz:2 Ethi:6 Zzzz:9 Ethi:7 Zzzz:1 Ethi:7 Zzzz:1",
   "Latn:43 Zyyy:1 Latn:9 Grek:1 Latn:4 Zyyy:2 Zzzz:4 Cher:80 Mtei:46 Zzzz:2 Mtei:10 Zzzz:6",
   "Hang:11172 Zzzz:12 Hang:23 Zzzz:4 Hang:49 Zzzz:8452 Hani:366 Zzzz:2 Hani:106 Zzzz:38",
   "Latn:7 Zzzz:12 Armn:5 Zzzz:5 Hebr:26 Zzzz:1 Hebr:5 Zzzz:1 Hebr:1 Zzzz:1 Hebr:2 Zzzz:1",
   "Hebr:2 Zzzz:1 Hebr:10 Arab:115 Zzzz:16 Arab:363 Zyyy:2 Arab:80 Zzzz:2 Arab:54 Zzzz:7",
   "Arab:1 Zzzz:32 Arab:16 Zinh:16 Zyyy:10 Zzzz:6 Zinh:14 Cyrl:2 Zyyy:35 Zzzz:1 Zyyy:19 Zzzz:1",
   "Zyyy:4 Zzzz:4 Arab:5 Zzzz:1 Arab:135 Zzzz:2 Zyyy:1 Zzzz:1 Zyyy:32 Latn:26 Zyyy:6 Latn:26",
   "Zyyy:11 Kana:10 Zyyy:1 Kana:45 Zyyy:2 Hang:31 Zzzz:3 Hang:6 Zzzz:2 Hang:6 Zzzz:2 Hang:6",
   "Zzzz:2 Hang:3 Zzzz:3 Zyyy:7 Zzzz:1 Zyyy:7 Zzzz:10 Zyyy:5 Zzzz:2 Linb:12 Zzzz:1 Linb:26",
   "Zzzz:1 Linb:19 Zzzz:1 Linb:2 Zzzz:1 Linb:15 Zzzz:2 Linb:14 Zzzz:34 Linb:123 Zzzz:5 Zyyy:3",
   "Zzzz:4 Zyyy:45 Zzzz:3 Zyyy:9 Grek:79 Zzzz:1 Zyyy:13 Zzzz:3 Grek:1 Zzzz:47 Zyyy:45 Zinh:1",
   "Zzzz:130 Lyci:29 Zzzz:3 Cari:49 Zzzz:15 Zinh:1 Zyyy:27 Zzzz:4 Ital:36 Zzzz:9 Ital:3",
   "Goth:27 Zzzz:5 Perm:43 Zzzz:5 Ugar:30 Zzzz:1 Ugar:1 Xpeo:36 Zzzz:4 Xpeo:14 Zzzz:42 Dsrt:80",
   "Shaw:48 Osma:30 Zzzz:2 Osma:10 Zzzz:6 Osge:36 Zzzz:4 Osge:36 Zzzz:4 Elba:40 Zzzz:8 Aghb:52",
   "Zzzz:11 Aghb:1 Vith:11 Zzzz:1 Vith:15 Zzzz:1 Vith:7 Zzzz:1 Vith:2 Zzzz:1 Vith:11 Zzzz:1",
   "Vith:15 Zzzz:1 Vith:7 Zzzz:1 Vith:2 Zzzz:3 Todr:52 Zzzz:12 Lina:311 Zzzz:9 Lina:22 Zzzz:10",
   "Lina:8 Zzzz:24 Latn:6 Zzzz:1 Latn:42 Zzzz:1 Latn:9 Zzzz:69 Cprt:6 Zzzz:2 Cprt:1 Zzzz:1",
   "Cprt:44 Zzzz:1 Cprt:2 Zzzz:3 Cprt:1 Zzzz:2 Cprt:1 Armi:22 Zzzz:1 Armi:9 Palm:32 Nbat:31",
   "Zzzz:8 Nbat:9 Zzzz:48 Hatr:19 Zzzz:1 Hatr:2 Zzzz:5 Hatr:5 Phnx:28 Zzzz:3 Phnx:1 Lydi:26",
   "Zzzz:5 Lydi:1 Zzzz:64 Mero:32 Merc:24 Zzzz:4 Merc:20 Zzzz:2 Merc:46 Khar:4 Zzzz:1 Khar:2",
   "Zzzz:5 Khar:8 Zzzz:1 Khar:3 Zzzz:1 Khar:29 Zzzz:2 Khar:3 Zzzz:4 Khar:10 Zzzz:7 Khar:9",
   "Zzzz:7 Sarb:32 Narb:32 Zzzz:32 Mani:39 Zzzz:4 Mani:12 Zzzz:9 Avst:54 Zzzz:3 Avst:7 Prti:22",
   "Zzzz:2 Prti:8 Phli:19 Zzzz:5 Phli:8 Phlp:18 Zzzz:7 Phlp:4 Zzzz:12 Phlp:7 Zzzz:80 Orkh:73",
   "Zzzz:55 Hung:51 Zzzz:13 Hung:51 Zzzz:7 Hung:6 Rohg:40 Zzzz:8 Rohg:10 Zzzz:6 Gara:38 Zzzz:3",
   "Gara:29 Zzzz:8 Gara:2 Zzzz:208 Arab:31 Zzzz:1 Yezi:42 Zzzz:1 Yezi:3 Zzzz:2 Yezi:2 Zzzz:16",
   "Arab:3 Zzzz:55 Arab:4 Sogo:40 Zzzz:8 Sogd:42 Zzzz:22 Ougr:26 Zzzz:38 Chrs:28 Zzzz:20",
   "Elym:23 Zzzz:9 Brah:78 Zzzz:4 Brah:36 Zzzz:9 Brah:1 Kthi:67 Zzzz:10 Kthi:1 Zzzz:2 Sora:25",
   "Zzzz:7 Sora:10 Zzzz:6 Cakm:53 Zzzz:1 Cakm:18 Zzzz:8 Mahj:39 Zzzz:9 Shrd:96 Zzzz:1 Sinh:20",
   "Zzzz:11 Khoj:18 Zzzz:1 Khoj:47 Zzzz:62 Mult:7 Zzzz:1 Mult:1 Zzzz:1 Mult:4 Zzzz:1 Mult:15",
   "Zzzz:1 Mult:11 Zzzz:6 Sind:59 Zzzz:5 Sind:10 Zzzz:6 Gran:4 Zzzz:1 Gran:8 Zzzz:2 Gran:2",
   "Zzzz:2 Gran:22 Zzzz:1 Gran:7 Zzzz:1 Gran:2 Zzzz:1 Gran:5 Zzzz:1 Zinh:1 Gran:9 Zzzz:2",
   "Gran:2 Zzzz:2 Gran:3 Zzzz:2 Gran:1 Zzzz:6 Gran:1 Zzzz:5 Gran:7 Zzzz:2 Gran:7 Zzzz:3 Gran:5",
   "Zzzz:11 Tutg:10 Zzzz:1 Tutg:1 Zzzz:2 Tutg:1 Zzzz:1 Tutg:38 Zzzz:1 Tutg:10 Zzzz:1 Tutg:1",
   "Zzzz:2 Tutg:1 Zzzz:1 Tutg:4 Zzzz:1 Tutg:10 Zzzz:1 Tutg:2 Zzzz:8 Tutg:2 Zzzz:29 Newa:92",
   "Zzzz:1 Newa:5 Zzzz:30 Tirh:72 Zzzz:8 Tirh:10 Zzzz:166 Sidd:54 Zzzz:2 Sidd:38 Zzzz:34",
   "Modi:69 Zzzz:11 Modi:10 Zzzz:6 Mong:13 Zzzz:19 Takr:58 Zzzz:6 Takr:10 Zzzz:6 Mymr:20",
   "Zzzz:28 Ahom:27 Zzzz:2 Ahom:15 Zzzz:4 Ahom:23 Zzzz:185 Dogr:60 Zzzz:100 Wara:83 Zzzz:12",
   "Wara:1 Diak:7 Zzzz:2 Diak:1 Zzzz:2 Diak:8 Zzzz:1 Diak:2 Zzzz:1 Diak:30 Zzzz:1 Diak:2",
   "Zzzz:2 Diak:12 Zzzz:9 Diak:10 Zzzz:70 Nand:8 Zzzz:2 Nand:46 Zzzz:2 Nand:11 Zzzz:27 Zanb:72",
   "Zzzz:8 Soyo:83 Zzzz:13 Cans:16 Pauc:57 Zzzz:7 Deva:10 Zzzz:182 Sunu:34 Zzzz:14 Sunu:10",
   "Zzzz:6 Bhks:9 Zzzz:1 Bhks:45 Zzzz:1 Bhks:14 Zzzz:10 Bhks:29 Zzzz:3 Marc:32 Zzzz:2 Marc:22",
   "Zzzz:1 Marc:14 Zzzz:73 Gonm:7 Zzzz:1 Gonm:2 Zzzz:1 Gonm:44 Zzzz:3 Gonm:1 Zzzz:1 Gonm:2",
   "Zzzz:1 Gonm:9 Zzzz:8 Gonm:10 Zzzz:6 Gong:6 Zzzz:1 Gong:2 Zzzz:1 Gong:37 Zzzz:1 Gong:2",
   "Zzzz:1 Gong:6 Zzzz:7 Gong:10 Zzzz:310 Maka:25 Zzzz:7 Kawi:17 Zzzz:1 Kawi:41 Zzzz:3 Kawi:29",
   "Zzzz:85 Lisu:1 Zzzz:15 Taml:50 Zzzz:13 Taml:1 Xsux:922 Zzzz:102 Xsux:111 Zzzz:1 Xsux:5",
   "Zzzz:11 Xsux:196 Zzzz:2636 Cpmn:99 Zzzz:13 Egyp:1110 Zzzz:10 Egyp:3995 Zzzz:5 Hluw:583",
   "Zzzz:6841 Gukh:58 Zzzz:1734 Bamu:569 Zzzz:7 Mroo:31 Zzzz:1 Mroo:10 Zzzz:4 Mroo:2 Tnsa:79",
   "Zzzz:1 Tnsa:10 Zzzz:6 Bass:30 Zzzz:2 Bass:6 Zzzz:10 Hmng:70 Zzzz:10 Hmng:10 Zzzz:1 Hmng:7",
   "Zzzz:1 Hmng:21 Zzzz:5 Hmng:19 Zzzz:432 Krai:58 Zzzz:198 Medf:91 Zzzz:101 Plrd:75 Zzzz:4",
   "Plrd:57 Zzzz:7 Plrd:17 Zzzz:64 Tang:1 Nshu:1 Hani:2 Kits:1 Zzzz:11 Hani:2 Zzzz:14",
   "Tang:6136 Zzzz:8 Tang:768 Kits:470 Zzzz:41 Kits:1 Tang:9 Zzzz:8935 Kana:4 Zzzz:1 Kana:7",
   "Zzzz:1 Kana:2 Zzzz:1 Kana:1 Hira:287 Kana:3 Zzzz:15 Hira:1 Zzzz:29 Hira:3 Zzzz:2 Kana:1",
   "Zzzz:14 Kana:4 Zzzz:8 Nshu:396 Zzzz:2308 Dupl:107 Zzzz:5 Dupl:13 Zzzz:3 Dupl:9 Zzzz:7",
   "Dupl:10 Zzzz:2 Dupl:4 Zyyy:4 Zzzz:3932 Zyyy:250 Zzzz:6 Zyyy:436 Zzzz:76 Zinh:46 Zzzz:2",
   "Zinh:23 Zzzz:9 Zyyy:116 Zzzz:60 Zyyy:246 Zzzz:10 Zyyy:39 Zzzz:2 Zyyy:62 Zinh:3 Zyyy:17",
   "Zinh:8 Zyyy:2 Zinh:7 Zyyy:30 Zinh:4 Zyyy:61 Zzzz:21 Grek:70 Zzzz:122 Zyyy:20 Zzzz:12",
   "Zyyy:20 Zzzz:12 Zyyy:87 Zzzz:9 Zyyy:25 Zzzz:135 Zyyy:85 Zzzz:1 Zyyy:71 Zzzz:1 Zyyy:2",
   "Zzzz:2 Zyyy:1 Zzzz:2 Zyyy:2 Zzzz:2 Zyyy:4 Zzzz:1 Zyyy:12 Zzzz:1 Zyyy:1 Zzzz:1 Zyyy:7",
   "Zzzz:1 Zyyy:65 Zzzz:1 Zyyy:4 Zzzz:2 Zyyy:8 Zzzz:1 Zyyy:7 Zzzz:1 Zyyy:28 Zzzz:1 Zyyy:4",
   "Zzzz:1 Zyyy:5 Zzzz:1 Zyyy:1 Zzzz:3 Zyyy:7 Zzzz:1 Zyyy:340 Zzzz:2 Zyyy:292 Zzzz:2 Zyyy:50",
   "Sgnw:652 Zzzz:15 Sgnw:5 Zzzz:1 Sgnw:15 Zzzz:1104 Latn:31 Zzzz:6 Latn:6 Zzzz:213 Glag:7",
   "Zzzz:1 Glag:17 Zzzz:2 Glag:7 Zzzz:1 Glag:2 Zzzz:1 Glag:5 Zzzz:5 Cyrl:62 Zzzz:33 Cyrl:1",
   "Zzzz:112 Hmnp:45 Zzzz:3 Hmnp:14 Zzzz:2 Hmnp:10 Zzzz:4 Hmnp:2 Zzzz:320 Toto:31 Zzzz:17",
   "Wcho:58 Zzzz:5 Wcho:1 Zzzz:464 Nagm:42 Zzzz:214 Onao:43 Zzzz:4 Onao:1 Zzzz:480 Ethi:7",
   "Zzzz:1 Ethi:4 Zzzz:1 Ethi:2 Zzzz:1 Ethi:15 Zzzz:1 Mend:197 Zzzz:2 Mend:16 Zzzz:41 Adlm:76",
   "Zzzz:4 Adlm:10 Zzzz:4 Adlm:2 Zzzz:785 Zyyy:68 Zzzz:76 Zyyy:61 Zzzz:194 Arab:4 Zzzz:1",
   "Arab:27 Zzzz:1 Arab:2 Zzzz:1 Arab:1 Zzzz:2 Arab:1 Zzzz:1 Arab:10 Zzzz:1 Arab:4 Zzzz:1",
   "Arab:1 Zzzz:1 Arab:1 Zzzz:6 Arab:1 Zzzz:4 Arab:1 Zzzz:1 Arab:1 Zzzz:1 Arab:1 Zzzz:1 Arab:3",
   "Zzzz:1 Arab:2 Zzzz:1 Arab:1 Zzzz:2 Arab:1 Zzzz:1 Arab:1 Zzzz:1 Arab:1 Zzzz:1 Arab:1 Zzzz:1",
   "Arab:1 Zzzz:1 Arab:2 Zzzz:1 Arab:1 Zzzz:2 Arab:4 Zzzz:1 Arab:7 Zzzz:1 Arab:4 Zzzz:1 Arab:4",
   "Zzzz:1 Arab:1 Zzzz:1 Arab:10 Zzzz:1 Arab:17 Zzzz:5 Arab:3 Zzzz:1 Arab:5 Zzzz:1 Arab:17",
   "Zzzz:52 Arab:2 Zzzz:270 Zyyy:44 Zzzz:4 Zyyy:100 Zzzz:12 Zyyy:15 Zzzz:2 Zyyy:15 Zzzz:1",
   "Zyyy:15 Zzzz:1 Zyyy:37 Zzzz:10 Zyyy:174 Zzzz:56 Zyyy:26 Hira:1 Zyyy:2 Zzzz:13 Zyyy:44",
   "Zzzz:4 Zyyy:9 Zzzz:7 Zyyy:2 Zzzz:14 Zyyy:6 Zzzz:154 Zyyy:984 Zzzz:4 Zyyy:17 Zzzz:3 Zyyy:13",
   "Zzzz:3 Zyyy:119 Zzzz:4 Zyyy:95 Zzzz:6 Zyyy:12 Zzzz:4 Zyyy:1 Zzzz:15 Zyyy:12 Zzzz:4 Zyyy:56",
   "Zzzz:8 Zyyy:10 Zzzz:6 Zyyy:40 Zzzz:8 Zyyy:30 Zzzz:2 Zyyy:12 Zzzz:4 Zyyy:2 Zzzz:62 Zyyy:340",
   "Zzzz:12 Zyyy:14 Zzzz:2 Zyyy:13 Zzzz:3 Zyyy:10 Zzzz:5 Zyyy:56 Zzzz:7 Zyyy:15 Zzzz:2 Zyyy:11",
   "Zzzz:6 Zyyy:9 Zzzz:7 Zyyy:147 Zzzz:1 Zyyy:102 Zzzz:1030 Hani:42720 Zzzz:32 Hani:4154",
   "Zzzz:6 Hani:222 Zzzz:2 Hani:5762 Zzzz:14 Hani:7473 Zzzz:15 Hani:622 Zzzz:2466 Hani:542",
   "Zzzz:1506 Hani:4939 Zzzz:5 Hani:4192 Zzzz:711761 Zyyy:1 Zzzz:30 Zyyy:96 Zzzz:128 Zinh:240",
   "Zzzz:196112"]

/-- Consecutive runs of one set of extension scripts; a dash stands where only the script itself
uses the code points.
-/
def scriptExtensionRuns : List String :=
  ["-:183 Avst+Cari+Copt+Dupl+Elba+Geor+Glag+Gong+Goth+Grek+Hani+Latn+Lydi+Mahj+Perm+Shaw:1",
   "-:516 Beng+Cyrl+Deva+Latn+Lisu+Thai+Toto:1 -:10 Bopo+Latn:1 -:1 Bopo+Latn:3 -:1",
   "Latn+Lisu:1 -:9 Latn+Thai:1 -:1 Bopo+Latn:1 -:38 Cher+Copt+Cyrl+Grek+Latn+Perm+Tale+Sunu:1",
   "Cher+Cyrl+Grek+Latn+Osge+Tale+Sunu+Todr:1 Cher+Cyrl+Latn+Tfng:1 Glag+Latn+Syrc+Thai+Sunu:1",
   "Aghb+Cher+Copt+Cyrl+Goth+Grek+Latn+Osge+Syrc+Tfng+Todr:1 Copt+Elba+Glag+Goth+Kana+Latn:1",
   "Cyrl+Grek+Latn+Perm:1 Copt+Dupl+Hebr+Latn+Perm+Syrc+Tale+Tfng+Todr:1",
   "Armn+Cyrl+Dupl+Goth+Grek+Hebr+Latn+Perm+Syrc+Tale:1 Latn+Tfng:1 Dupl+Latn+Syrc:1",
   "Cher+Cyrl+Latn+Osge:1 Cher+Latn+Tale:1 Latn+Sunu:1 Ethi+Latn:1 -:1 Latn+Sunu:1",
   "Cyrl+Latn+Todr:1 -:1 Grek+Latn+Perm+Todr:1 -:12 Latn+Syrc:1 -:2 Cher+Dupl+Kana+Latn+Syrc:1",
   "Cher+Dupl+Latn+Syrc:1 Latn+Syrc:1 -:7 Latn+Syrc+Sunu:1 Latn+Syrc:1 -:1 Cher+Latn+Syrc:1",
   "Aghb+Cher+Goth+Latn+Thai+Sunu:1 -:16 Grek:1 -:2 Grek:1 -:18 Latn+Osge:1 -:5",
   "Aghb+Latn+Todr:1 -:4 Latn:13 -:4 Copt+Grek:2 -:269 Cyrl+Perm:1 Cyrl+Glag:1 Cyrl+Latn:2",
   "Cyrl+Glag:1 -:257 Armn+Geor+Glag:1 -:130 Arab+Nkoo+Rohg+Syrc+Thaa+Yezi+Gara:1 -:14",
   "Arab+Nkoo+Rohg+Syrc+Thaa+Yezi+Gara:1 Arab+Syrc+Thaa:1 -:2",
   "Adlm+Arab+Nkoo+Rohg+Syrc+Thaa+Yezi+Gara:1 -:32",
   "Adlm+Arab+Mand+Mani+Ougr+Phlp+Rohg+Sogd+Syrc:1 -:10 Arab+Syrc:11 -:10 Arab+Thaa+Yezi:10",
   "-:6 Arab+Syrc:1 -:99 Arab+Rohg:1 -:636",
   "Beng+Deva+Gran+Gujr+Guru+Knda+Latn+Mlym+Orya+Shrd+Taml+Telu+Tirh:1",
   "Beng+Deva+Gran+Gujr+Guru+Knda+Latn+Mlym+Orya+Taml+Telu+Tirh:1 -:17",
   "Beng+Deva+Dogr+Gong+Gonm+Gran+Gujr+Guru+Knda+Mahj+Mlym+Nand+Orya+Sind+Sinh+Sylo+Takr+Taml+Telu+Tirh+Onao:1",
   "Beng+Deva+Dogr+Gong+Gonm+Gran+Gujr+Guru+Knda+Limb+Mahj+Mlym+Nand+Orya+Sind+Sinh+Sylo+Takr+Taml+Telu+Tirh+Gukh+Onao:1",
   "Deva+Dogr+Kthi+Mahj:10 -:118 Beng+Cakm+Sylo:10 -:118 Guru+Mult:10 -:118 Gujr+Khoj:10 -:246",
   "Gran+Taml:14 -:242 Knda+Nand+Tutg:10 -:848 Cakm+Mymr+Tale:10 -:177 Geor+Glag+Latn:1 -:1519",
   "Runr:3 -:71 Buhd+Hano+Tagb+Tglg:2 -:203 Mong+Phag:2 -:1 Mong+Phag:1 -:1226",
   "Beng+Deva+Gran+Knda:1 Deva:1 Beng+Deva+Gran+Knda:1 Deva+Gran+Knda:1 Deva:1 Beng+Deva:2",
   "Deva+Shrd:1 Beng+Deva:1 Deva+Shrd:1 Deva+Knda+Mlym+Orya+Taml+Telu:1 Deva:1 Deva+Shrd:2",
   "Deva:2 Deva+Shrd:1 Beng+Deva:1 Deva:7 Deva+Nand:1 Beng+Deva:1 Deva:2 Beng+Deva:1 Deva:4",
   "Beng+Deva+Gran+Knda+Mlym+Nand+Orya+Sinh+Telu+Tirh+Tutg:1 Deva+Gran:1 Deva+Gran+Knda+Tutg:1",
   "Beng+Deva:2 Beng:1 Deva+Gran:2 Nand:1 -:197 Grek:2 -:54 Cyrl+Latn+Syrc:1 -:1 Syrc:1 -:564",
   "Latn+Mong+Phag:1 -:31 Adlm+Arab:1 -:10 Cari+Geor+Glag+Hung+Lyci+Orkh:1 -:2",
   "Cari+Grek+Hung+Mero:1 -:146 Deva+Gran+Latn:1 -:3366 Copt+Latn:1 -:24 Avst+Orkh:1",
   "Avst+Cari+Geor+Hung+Kthi+Lydi+Samr:1 -:10 Dupl:1 -:4 Adlm+Arab+Hung:1 -:1 Cyrl+Glag:1",
   "-:428 Hani+Tang:16 -:1 Bopo+Hang+Hani+Hira+Kana+Mong+Yiii:1",
   "Bopo+Hang+Hani+Hira+Kana+Mong+Phag+Yiii:1 Bopo+Hang+Hani+Hira+Kana:1 -:2 Hani:1 -:1",
   "Bopo+Hang+Hani+Hira+Kana+Mong+Tibt+Yiii:2 Bopo+Hang+Hani+Hira+Kana+Lisu+Mong+Tibt+Yiii:2",
   "Bopo+Hang+Hani+Hira+Kana+Yiii:6 -:1 Bopo+Hang+Hani+Hira+Kana:1",
   "Bopo+Hang+Hani+Hira+Kana+Yiii:8 Bopo+Hang+Hani+Hira+Kana:4 -:10 Bopo+Hani:4 -:2",
   "Bopo+Hang+Hani+Hira+Kana:1 Hira+Kana:5 -:1 Bopo+Hang+Hani+Hira+Kana:1 -:4 Hani+Hira+Kana:2",
   "Hani:2 -:89 Hira+Kana:4 -:3 Hira+Kana:1 -:90 Bopo+Hang+Hani+Hira+Kana+Yiii:1 Hira+Kana:1",
   "-:147 Hani:16 -:32 Hani:38 -:9 Hani+Tang:1 -:48 Hani:40 -:56 Hani:49 -:15 Hani:12 -:51",
   "Hani:1 -:88 Hani:25 -:10 Hani:5 -:96 Hani:31 -:29296 Cyrl+Glag:1 -:144 Hani+Latn:8 -:296",
   "Deva+Dogr+Gujr+Guru+Khoj+Knda+Kthi+Mahj+Mlym+Modi+Nand+Shrd+Sind+Takr+Tirh+Tutg:3",
   "Deva+Dogr+Gujr+Guru+Khoj+Knda+Kthi+Mahj+Modi+Nand+Shrd+Sind+Takr+Tirh+Tutg:3",
   "Deva+Dogr+Gujr+Guru+Khoj+Kthi+Mahj+Modi+Sind+Takr+Tirh:2",
   "Deva+Dogr+Gujr+Guru+Khoj+Kthi+Mahj+Modi+Shrd+Sind+Takr+Tirh:1",
   "Deva+Dogr+Gujr+Guru+Khoj+Kthi+Mahj+Modi+Sind+Takr+Tirh:1 -:183 Beng+Deva+Tutg:1 -:1",
   "Deva+Taml:1 -:58 Kali+Latn+Mymr:1 -:160 Bugi+Java:1 -:21358 Arab+Nkoo:2 -:178 Arab+Thaa:1",
   "-:10 Arab+Thaa:1 -:71 Bopo+Hang+Hani+Hira+Kana:2 -:282 Bopo+Hang+Hani+Hira+Kana+Yiii:5",
   "-:10 Hira+Kana:1 -:45 Hira+Kana:2 -:352 Cpmn+Cprt+Linb:2 Cprt+Linb:1 -:4 Cprt+Lina+Linb:45",
   "-:3 Cprt+Linb:9 -:416 Arab+Copt:28 -:2038 Mani+Ougr:1 -:2062 Gran+Taml:1 -:1 Gran+Taml:1",
   "-:55 Gran+Taml:2 -:3219 Gran+Taml:2 -:1 Gran+Taml:1 -:40140 Dupl:4 -:5820 Hani:18 -:7902",
   "Hani:2 -:986542"]

end LineEditor.Unicode
