import KeysetStore.Pattern.Category

/-!
# Pattern/Trait/Letter — letters and their case

What is a letter, which case it has, and whether a change of case changes it.  The tables are those
of Unicode 16.0.
-/

namespace KeysetStore.Pattern.Trait

/-! ## Letters -/

/-- The marks and symbols that are used like letters. -/
def otherAlphabetic : Ranges :=
  .ofText <| String.join [
      "345 363-36F 5B0-5BD 5BF 5C1-5C2 5C4-5C5 5C7 610-61A 64B-657 659-65F 670 6D6-6DC 6E1-6E4 ",
      "6E7-6E8 6ED 711 730-73F 7A6-7B0 816-817 81B-823 825-827 829-82C 897 8D4-8DF 8E3-8E9 ",
      "8F0-903 93A-93B 93E-94C 94E-94F 955-957 962-963 981-983 9BE-9C4 9C7-9C8 9CB-9CC 9D7 ",
      "9E2-9E3 A01-A03 A3E-A42 A47-A48 A4B-A4C A51 A70-A71 A75 A81-A83 ABE-AC5 AC7-AC9 ACB-ACC ",
      "AE2-AE3 AFA-AFC B01-B03 B3E-B44 B47-B48 B4B-B4C B56-B57 B62-B63 B82 BBE-BC2 BC6-BC8 ",
      "BCA-BCC BD7 C00-C04 C3E-C44 C46-C48 C4A-C4C C55-C56 C62-C63 C81-C83 CBE-CC4 CC6-CC8 ",
      "CCA-CCC CD5-CD6 CE2-CE3 CF3 D00-D03 D3E-D44 D46-D48 D4A-D4C D57 D62-D63 D81-D83 DCF-DD4 ",
      "DD6 DD8-DDF DF2-DF3 E31 E34-E3A E4D EB1 EB4-EB9 EBB-EBC ECD F71-F83 F8D-F97 F99-FBC ",
      "102B-1036 1038 103B-103E 1056-1059 105E-1060 1062-1064 1067-106D 1071-1074 1082-108D 108F ",
      "109A-109D 1712-1713 1732-1733 1752-1753 1772-1773 17B6-17C8 1885-1886 18A9 1920-192B ",
      "1930-1938 1A17-1A1B 1A55-1A5E 1A61-1A74 1ABF-1AC0 1ACC-1ACE 1B00-1B04 1B35-1B43 1B80-1B82 ",
      "1BA1-1BA9 1BAC-1BAD 1BE7-1BF1 1C24-1C36 1DD3-1DF4 24B6-24E9 2DE0-2DFF A674-A67B A69E-A69F ",
      "A802 A80B A823-A827 A880-A881 A8B4-A8C3 A8C5 A8FF A926-A92A A947-A952 A980-A983 A9B4-A9BF ",
      "A9E5 AA29-AA36 AA43 AA4C-AA4D AA7B-AA7D AAB0 AAB2-AAB4 AAB7-AAB8 AABE AAEB-AAEF AAF5 ",
      "ABE3-ABEA FB1E 10376-1037A 10A01-10A03 10A05-10A06 10A0C-10A0F 10D24-10D27 10D69 ",
      "10EAB-10EAC 10EFC 11000-11002 11038-11045 11073-11074 11080-11082 110B0-110B8 110C2 ",
      "11100-11102 11127-11132 11145-11146 11180-11182 111B3-111BF 111CE-111CF 1122C-11234 11237 ",
      "1123E 11241 112DF-112E8 11300-11303 1133E-11344 11347-11348 1134B-1134C 11357 11362-11363 ",
      "113B8-113C0 113C2 113C5 113C7-113CA 113CC-113CD 11435-11441 11443-11445 114B0-114C1 ",
      "115AF-115B5 115B8-115BE 115DC-115DD 11630-1163E 11640 116AB-116B5 1171D-1172A 1182C-11838 ",
      "11930-11935 11937-11938 1193B-1193C 11940 11942 119D1-119D7 119DA-119DF 119E4 11A01-11A0A ",
      "11A35-11A39 11A3B-11A3E 11A51-11A5B 11A8A-11A97 11C2F-11C36 11C38-11C3E 11C92-11CA7 ",
      "11CA9-11CB6 11D31-11D36 11D3A 11D3C-11D3D 11D3F-11D41 11D43 11D47 11D8A-11D8E 11D90-11D91 ",
      "11D93-11D96 11EF3-11EF6 11F00-11F01 11F03 11F34-11F3A 11F3E-11F40 1611E-1612E 16F4F ",
      "16F51-16F87 16F8F-16F92 16FF0-16FF1 1BC9E 1E000-1E006 1E008-1E018 1E01B-1E021 1E023-1E024 ",
      "1E026-1E02A 1E08F 1E947 1F130-1F149 1F150-1F169 1F170-1F189"]

/-- **Letters, letter numbers, and what is used like them.** -/
def alphabetic : Ranges := .unionAll [Category.letters, Category.ofLabels ["Nl"], otherAlphabetic]

/-- Ideographs. -/
def ideographic : Ranges :=
  .ofText <| String.join [
      "3006-3007 3021-3029 3038-303A 3400-4DBF 4E00-9FFF F900-FA6D FA70-FAD9 16FE4 17000-187F7 ",
      "18800-18CD5 18CFF-18D08 1B170-1B2FB 20000-2A6DF 2A700-2B739 2B740-2B81D 2B820-2CEA1 ",
      "2CEB0-2EBE0 2EBF0-2EE5D 2F800-2FA1D 30000-3134A 31350-323AF"]

/-- The ideographs of the unified repertoire. -/
def unifiedIdeograph : Ranges :=
  .ofText <| String.join [
      "3400-4DBF 4E00-9FFF FA0E-FA0F FA11 FA13-FA14 FA1F FA21 FA23-FA24 FA27-FA29 20000-2A6DF ",
      "2A700-2B739 2B740-2B81D 2B820-2CEA1 2CEB0-2EBE0 2EBF0-2EE5D 30000-3134A 31350-323AF"]

/-- Radicals of ideographs. -/
def radical : Ranges := .ofText "2E80-2E99 2E9B-2EF3 2F00-2FD5"

/-! ## Case -/

/-- The characters used like small letters. -/
def otherLowercase : Ranges :=
  .ofText <| String.join [
      "AA BA 2B0-2B8 2C0-2C1 2E0-2E4 345 37A 10FC 1D2C-1D6A 1D78 1D9B-1DBF 2071 207F 2090-209C ",
      "2170-217F 24D0-24E9 2C7C-2C7D A69C-A69D A770 A7F2-A7F4 A7F8-A7F9 AB5C-AB5F AB69 10780 ",
      "10783-10785 10787-107B0 107B2-107BA 1E030-1E06D"]

/-- **Small letters, and what is used like them.** -/
def lowercase : Ranges := (Category.ofLabels ["Ll"]).union otherLowercase

/-- The characters used like capital letters. -/
def otherUppercase : Ranges := .ofText "2160-216F 24B6-24CF 1F130-1F149 1F150-1F169 1F170-1F189"

/-- **Capital letters, and what is used like them.** -/
def uppercase : Ranges := (Category.ofLabels ["Lu"]).union otherUppercase

/-- Characters of either case, and those of titles. -/
def cased : Ranges := .unionAll [lowercase, uppercase, Category.ofLabels ["Lt"]]

/-- The signs that do not end a word between two letters. -/
def midLetter : Ranges := .ofText "3A B7 387 55F 5F4 2027 FE13 FE55 FF1A"

/-- The signs that do not end a word between two letters, nor between two digits. -/
def midLetterOrNumber : Ranges := .ofText "2E 2018-2019 2024 FE52 FF07 FF0E"

/-- The characters that are passed over where a letter is looked for around another one. -/
def caseIgnorable : Ranges :=
  .unionAll [Category.ofLabels ["Mn", "Me", "Cf", "Lm", "Sk"], midLetter, midLetterOrNumber,
    .ofChars ['\x27']]

/-- Characters whose dot goes when an accent comes. -/
def softDotted : Ranges :=
  .ofText <| String.join [
      "69-6A 12F 249 268 29D 2B2 3F3 456 458 1D62 1D96 1DA4 1DA8 1E2D 1ECB 2071 2148-2149 2C7C ",
      "1D422-1D423 1D456-1D457 1D48A-1D48B 1D4BE-1D4BF 1D4F2-1D4F3 1D526-1D527 1D55A-1D55B ",
      "1D58E-1D58F 1D5C2-1D5C3 1D5F6-1D5F7 1D62A-1D62B 1D65E-1D65F 1D692-1D693 1DF1A 1E04C-1E04D ",
      "1E068"]

/-- Characters that writing in small letters changes. -/
def changesWhenLowercased : Ranges :=
  .ofText <| String.join [
      "41-5A C0-D6 D8-DE 100~136 139~147 14A~176 178-179 17B 17D 181-182 184 186-187 189-18B ",
      "18E-191 193-194 196-198 19C-19D 19F-1A0 1A2 1A4 1A6-1A7 1A9 1AC 1AE-1AF 1B1-1B3 1B5 ",
      "1B7-1B8 1BC 1C4-1C5 1C7-1C8 1CA-1CB 1CD~1DB 1DE~1EE 1F1-1F2 1F4 1F6-1F8 1FA~232 23A-23B ",
      "23D-23E 241 243-246 248~24E 370 372 376 37F 386 388-38A 38C 38E-38F 391-3A1 3A3-3AB 3CF ",
      "3D8~3EE 3F4 3F7 3F9-3FA 3FD-42F 460~480 48A~4BE 4C0-4C1 4C3~4CD 4D0~52E 531-556 10A0-10C5 ",
      "10C7 10CD 13A0-13F5 1C89 1C90-1CBA 1CBD-1CBF 1E00~1E94 1E9E~1EFE 1F08-1F0F 1F18-1F1D ",
      "1F28-1F2F 1F38-1F3F 1F48-1F4D 1F59~1F5F 1F68-1F6F 1F88-1F8F 1F98-1F9F 1FA8-1FAF 1FB8-1FBC ",
      "1FC8-1FCC 1FD8-1FDB 1FE8-1FEC 1FF8-1FFC 2126 212A-212B 2132 2160-216F 2183 24B6-24CF ",
      "2C00-2C2F 2C60 2C62-2C64 2C67~2C6B 2C6D-2C70 2C72 2C75 2C7E-2C80 2C82~2CE2 2CEB 2CED 2CF2 ",
      "A640~A66C A680~A69A A722~A72E A732~A76E A779 A77B A77D-A77E A780~A786 A78B A78D A790 A792 ",
      "A796~A7A8 A7AA-A7AE A7B0-A7B4 A7B6~A7C2 A7C4-A7C7 A7C9 A7CB-A7CC A7D0 A7D6~A7DC A7F5 ",
      "FF21-FF3A 10400-10427 104B0-104D3 10570-1057A 1057C-1058A 1058C-10592 10594-10595 ",
      "10C80-10CB2 10D50-10D65 118A0-118BF 16E40-16E5F 1E900-1E921"]

/-- Characters that writing in capitals changes. -/
def changesWhenUppercased : Ranges :=
  .ofText <| String.join [
      "61-7A B5 DF-F6 F8-FF 101~137 13A~146 148-149 14B~177 17A 17C 17E-180 183 185 188 18C 192 ",
      "195 199-19B 19E 1A1~1A5 1A8 1AD 1B0 1B4 1B6 1B9 1BD 1BF 1C5-1C6 1C8-1C9 1CB-1CC 1CE~1DA ",
      "1DC-1DD 1DF~1ED 1EF-1F0 1F2-1F3 1F5 1F9~21F 223~233 23C 23F-240 242 247~24D 24F-254 ",
      "256-257 259 25B-25C 260-261 263-266 268-26C 26F 271-272 275 27D 280 282-283 287-28C 292 ",
      "29D-29E 345 371 373 377 37B-37D 390 3AC-3CE 3D0-3D1 3D5-3D7 3D9~3ED 3EF-3F3 3F5 3F8 3FB ",
      "430-45F 461~481 48B~4BF 4C2~4CC 4CE-4CF 4D1~52F 561-587 10D0-10FA 10FD-10FF 13F8-13FD ",
      "1C80-1C88 1C8A 1D79 1D7D 1D8E 1E01~1E93 1E95-1E9B 1EA1~1EFD 1EFF-1F07 1F10-1F15 1F20-1F27 ",
      "1F30-1F37 1F40-1F45 1F50-1F57 1F60-1F67 1F70-1F7D 1F80-1FB4 1FB6-1FB7 1FBC 1FBE 1FC2-1FC4 ",
      "1FC6-1FC7 1FCC 1FD0-1FD3 1FD6-1FD7 1FE0-1FE7 1FF2-1FF4 1FF6-1FF7 1FFC 214E 2170-217F 2184 ",
      "24D0-24E9 2C30-2C5F 2C61 2C65-2C66 2C68~2C6C 2C73 2C76 2C81~2CE3 2CEC 2CEE 2CF3 2D00-2D25 ",
      "2D27 2D2D A641~A66D A681~A69B A723~A72F A733~A76F A77A A77C A77F~A787 A78C A791 A793-A794 ",
      "A797~A7A9 A7B5~A7C3 A7C8 A7CA A7CD A7D1 A7D7~A7DB A7F6 AB53 AB70-ABBF FB00-FB06 FB13-FB17 ",
      "FF41-FF5A 10428-1044F 104D8-104FB 10597-105A1 105A3-105B1 105B3-105B9 105BB-105BC ",
      "10CC0-10CF2 10D70-10D85 118C0-118DF 16E60-16E7F 1E922-1E943"]

/-- Characters that the start of a title changes, and writing in capitals does not. -/
def titlesOnly : Ranges := .ofText "1C4 1C7 1CA 1F1"

/-- Characters that writing in capitals changes, and the start of a title does not. -/
def capitalsOnly : Ranges :=
  .ofText "1C5 1C8 1CB 1F2 10D0-10FA 10FD-10FF 1F88-1F8F 1F98-1F9F 1FA8-1FAF 1FBC 1FCC 1FFC"

/-- Characters that the start of a title changes. -/
def changesWhenTitlecased : Ranges := (changesWhenUppercased.union titlesOnly).diff capitalsOnly

/-- Characters that some change of case changes. -/
def changesWhenCasemapped : Ranges :=
  .unionAll [changesWhenLowercased, changesWhenUppercased, changesWhenTitlecased]

/-- Characters that are taken for another one where case does not count. -/
def changesWhenCasefolded : Ranges :=
  .ofText <| String.join [
      "41-5A B5 C0-D6 D8-DF 100~136 139~147 149-14A 14C~176 178-179 17B~17F 181-182 184 186-187 ",
      "189-18B 18E-191 193-194 196-198 19C-19D 19F-1A0 1A2 1A4 1A6-1A7 1A9 1AC 1AE-1AF 1B1-1B3 ",
      "1B5 1B7-1B8 1BC 1C4-1C5 1C7-1C8 1CA-1CB 1CD~1DB 1DE~1EE 1F1-1F2 1F4 1F6-1F8 1FA~232 ",
      "23A-23B 23D-23E 241 243-246 248~24E 345 370 372 376 37F 386 388-38A 38C 38E-38F 391-3A1 ",
      "3A3-3AB 3C2 3CF-3D1 3D5-3D6 3D8~3EE 3F0-3F1 3F4-3F5 3F7 3F9-3FA 3FD-42F 460~480 48A~4BE ",
      "4C0-4C1 4C3~4CD 4D0~52E 531-556 587 10A0-10C5 10C7 10CD 13F8-13FD 1C80-1C89 1C90-1CBA ",
      "1CBD-1CBF 1E00~1E94 1E9A-1E9B 1E9E~1EFE 1F08-1F0F 1F18-1F1D 1F28-1F2F 1F38-1F3F 1F48-1F4D ",
      "1F59~1F5F 1F68-1F6F 1F80-1FAF 1FB2-1FB4 1FB7-1FBC 1FC2-1FC4 1FC7-1FCC 1FD8-1FDB 1FE8-1FEC ",
      "1FF2-1FF4 1FF7-1FFC 2126 212A-212B 2132 2160-216F 2183 24B6-24CF 2C00-2C2F 2C60 2C62-2C64 ",
      "2C67~2C6B 2C6D-2C70 2C72 2C75 2C7E-2C80 2C82~2CE2 2CEB 2CED 2CF2 A640~A66C A680~A69A ",
      "A722~A72E A732~A76E A779 A77B A77D-A77E A780~A786 A78B A78D A790 A792 A796~A7A8 A7AA-A7AE ",
      "A7B0-A7B4 A7B6~A7C2 A7C4-A7C7 A7C9 A7CB-A7CC A7D0 A7D6~A7DC A7F5 AB70-ABBF FB00-FB06 ",
      "FB13-FB17 FF21-FF3A 10400-10427 104B0-104D3 10570-1057A 1057C-1058A 1058C-10592 ",
      "10594-10595 10C80-10CB2 10D50-10D65 118A0-118BF 16E40-16E5F 1E900-1E921"]

end KeysetStore.Pattern.Trait
