import KeysetStore.Pattern.Script

/-!
# Pattern/Script/Shared — the scripts a character is used in

A character that is used in several scripts, or in another one than its own, is listed with all of
them; every other one is used in its own only.  The table is that of Unicode 16.0.
-/

namespace KeysetStore.Pattern.Script

/-- The characters used in other scripts than their own, and the scripts they are used in. -/
def shared : List (String × String) :=
  [
    ("B7", "Avst Cari Copt Dupl Elba Geor Glag Gong Goth Grek Hani Latn Lydi Mahj Perm Shaw"),
    ("2BC", "Beng Cyrl Deva Latn Lisu Thai Toto"),
    ("2C7 2C9-2CB 2D9", "Bopo Latn"),
    ("2CD", "Latn Lisu"),
    ("2D7", "Latn Thai"),
    ("300", "Cher Copt Cyrl Grek Latn Perm Sunu Tale"),
    ("301", "Cher Cyrl Grek Latn Osge Sunu Tale Todr"),
    ("302", "Cher Cyrl Latn Tfng"),
    ("303", "Glag Latn Sunu Syrc Thai"),
    ("304", "Aghb Cher Copt Cyrl Goth Grek Latn Osge Syrc Tfng Todr"),
    ("305", "Copt Elba Glag Goth Kana Latn"),
    ("306", "Cyrl Grek Latn Perm"),
    ("307", "Copt Dupl Hebr Latn Perm Syrc Tale Tfng Todr"),
    ("308", "Armn Cyrl Dupl Goth Grek Hebr Latn Perm Syrc Tale"),
    ("309", "Latn Tfng"),
    ("30A", "Dupl Latn Syrc"),
    ("30B", "Cher Cyrl Latn Osge"),
    ("30C", "Cher Latn Tale"),
    ("30D 310", "Latn Sunu"),
    ("30E", "Ethi Latn"),
    ("311", "Cyrl Latn Todr"),
    ("313", "Grek Latn Perm Todr"),
    ("323", "Cher Dupl Kana Latn Syrc"),
    ("324", "Cher Dupl Latn Syrc"),
    ("325 32E", "Latn Syrc"),
    ("32D", "Latn Sunu Syrc"),
    ("330", "Cher Latn Syrc"),
    ("331", "Aghb Cher Goth Latn Sunu Syrc Thai"),
    ("342 345 1DC0-1DC1", "Grek"),
    ("358", "Latn Osge"),
    ("35E", "Aghb Latn Todr"),
    ("363-36F", "Latn"),
    ("374-375", "Copt Grek"),
    ("483", "Cyrl Perm"),
    ("484 487 2E43 A66F", "Cyrl Glag"),
    ("485-486", "Cyrl Latn"),
    ("589", "Armn Geor Glag"),
    ("60C 61B", "Arab Gara Nkoo Rohg Syrc Thaa Yezi"),
    ("61C", "Arab Syrc Thaa"),
    ("61F", "Adlm Arab Gara Nkoo Rohg Syrc Thaa Yezi"),
    ("640", "Adlm Arab Mand Mani Ougr Phlp Rohg Sogd Syrc"),
    ("64B-655 670", "Arab Syrc"),
    ("660-669", "Arab Thaa Yezi"),
    ("6D4", "Arab Rohg"),
    ("951", "Beng Deva Gran Gujr Guru Knda Latn Mlym Nand Newa Orya Shrd Taml Telu Tirh"),
    ("952", "Beng Deva Gran Gujr Guru Knda Latn Mlym Newa Orya Taml Telu Tirh"),
    ("964",
      String.join ["Beng Deva Dogr Gong Gonm Gran Gujr Guru Knda Mahj Mlym Nand Onao Orya Sind ",
        "Sinh Sylo Takr Taml Telu Tirh"]),
    ("965",
      String.join ["Beng Deva Dogr Gong Gonm Gran Gujr Gukh Guru Knda Limb Mahj Mlym Nand Onao ",
        "Orya Sind Sinh Sylo Takr Taml Telu Tirh"]),
    ("966-96F", "Deva Dogr Kthi Mahj"),
    ("9E6-9EF", "Beng Cakm Sylo"),
    ("A66-A6F", "Guru Mult"),
    ("AE6-AEF", "Gujr Khoj"),
    ("BE6-BF3 11301 11303 1133B-1133C 11FD0-11FD1 11FD3", "Gran Taml"),
    ("CE6-CEF", "Knda Nand Tutg"),
    ("1040-1049", "Cakm Mymr Tale"),
    ("10FB", "Geor Glag Latn"),
    ("16EB-16ED", "Runr"),
    ("1735-1736", "Buhd Hano Tagb Tglg"),
    ("1802-1803 1805", "Mong Phag"),
    ("1CD0 1CD2", "Beng Deva Gran Knda"),
    ("1CD1 1CD4 1CDB 1CDE-1CDF 1CE3-1CE8 1CEC 1CEE-1CF1", "Deva"),
    ("1CD3", "Deva Gran Knda"),
    ("1CD5", "Beng Deva Newa Telu Tirh"),
    ("1CD6", "Beng Deva Telu"),
    ("1CD7", "Deva Newa Shrd"),
    ("1CD8", "Beng Deva Newa Telu"),
    ("1CD9 1CDC-1CDD 1CE0", "Deva Shrd"),
    ("1CDA", "Deva Knda Mlym Orya Taml Telu"),
    ("1CE1 1CF5-1CF6", "Beng Deva"),
    ("1CE2", "Deva Newa Tirh"),
    ("1CE9", "Deva Nand Newa"),
    ("1CEA", "Beng Deva Shrd"),
    ("1CEB", "Deva Newa"),
    ("1CED", "Beng Deva Newa Shrd"),
    ("1CF2", "Beng Deva Gran Knda Mlym Nand Orya Sinh Telu Tirh Tutg"),
    ("1CF3 1CF8-1CF9", "Deva Gran"),
    ("1CF4", "Deva Gran Knda Tutg"),
    ("1CF7", "Beng"),
    ("1CFA", "Nand"),
    ("1DF8", "Cyrl Latn Syrc"),
    ("1DFA", "Syrc"),
    ("202F", "Latn Mong Phag"),
    ("204F", "Adlm Arab"),
    ("205A", "Cari Geor Glag Hung Lyci Orkh"),
    ("205D", "Cari Grek Hung Mero"),
    ("20F0", "Deva Gran Latn"),
    ("2E17", "Copt Latn"),
    ("2E30", "Avst Orkh"),
    ("2E31", "Avst Cari Geor Hung Kthi Lydi Samr"),
    ("2E3C 1BCA0-1BCA3", "Dupl"),
    ("2E41", "Adlm Arab Hung"),
    ("2FF0-2FFF 31EF", "Hani Tang"),
    ("3001", "Bopo Hang Hani Hira Kana Mong Yiii"),
    ("3002", "Bopo Hang Hani Hira Kana Mong Phag Yiii"),
    ("3003 3013 301C-301F 3030 3037 FE45-FE46", "Bopo Hang Hani Hira Kana"),
    (String.join ["3006 303E-303F 3190-319F 31C0-31E5 3220-3247 3280-32B0 32C0-32CB 32FF ",
        "3358-3370 337B-337F 33E0-33FE 1D360-1D371 1F250-1F251"],
      "Hani"),
    ("3008-3009", "Bopo Hang Hani Hira Kana Mong Tibt Yiii"),
    ("300A-300B", "Bopo Hang Hani Hira Kana Lisu Mong Tibt Yiii"),
    ("300C-3011 3014-301B 30FB FF61-FF65", "Bopo Hang Hani Hira Kana Yiii"),
    ("302A-302D", "Bopo Hani"),
    ("3031-3035 3099-309C 30A0 30FC FF70 FF9E-FF9F", "Hira Kana"),
    ("303C-303D", "Hani Hira Kana"),
    ("A700-A707", "Hani Latn"),
    ("A830-A832",
      "Deva Dogr Gujr Guru Khoj Knda Kthi Mahj Mlym Modi Nand Shrd Sind Takr Tirh Tutg"),
    ("A833-A835", "Deva Dogr Gujr Guru Khoj Knda Kthi Mahj Modi Nand Shrd Sind Takr Tirh Tutg"),
    ("A836-A837 A839", "Deva Dogr Gujr Guru Khoj Kthi Mahj Modi Sind Takr Tirh"),
    ("A838", "Deva Dogr Gujr Guru Khoj Kthi Mahj Modi Shrd Sind Takr Tirh"),
    ("A8F1", "Beng Deva Tutg"),
    ("A8F3", "Deva Taml"),
    ("A92E", "Kali Latn Mymr"),
    ("A9CF", "Bugi Java"),
    ("FD3E-FD3F", "Arab Nkoo"),
    ("FDF2 FDFD", "Arab Thaa"),
    ("10100-10101", "Cpmn Cprt Linb"),
    ("10102 10137-1013F", "Cprt Linb"),
    ("10107-10133", "Cprt Lina Linb"),
    ("102E0-102FB", "Arab Copt"),
    ("10AF2", "Mani Ougr")
  ]

/-- The shared characters as sets. -/
def sharedSets : List (Ranges × List String) :=
  shared.map fun (text, labels) => (.ofText text, labels.splitOn " ")

/-- **The characters used in a script**, by its four letters. -/
def usedIn (label : String) : Ranges :=
  let listed := sharedSets.filterMap fun (set, labels) =>
    if labels.contains label then some set else none
  ((own label).diff (.unionAll (sharedSets.map (·.1)))).union (.unionAll listed)

end KeysetStore.Pattern.Script
