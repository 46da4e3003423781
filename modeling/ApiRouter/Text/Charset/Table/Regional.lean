import ApiRouter.Text.Charset.Table

set_option autoImplicit false

/-! # Tables of charsets of single systems and regions

Each row gives sixteen characters by their numbers. A table of eight rows starts at byte 128. -/

namespace ApiRouter.Text.Charset.SingleByte

/-- The table of `mac_arabic`. -/
def macArabic : SingleByte := ⟨[
  "00C4 00A0 00C7 00C9 00D1 00D6 00DC 00E1 00E0 00E2 00E4 06BA 00AB 00E7 00E9 00E8",
  "00EA 00EB 00ED 2026 00EE 00EF 00F1 00F3 00BB 00F4 00F6 00F7 00FA 00F9 00FB 00FC",
  "0020 0021 0022 0023 0024 066A 0026 0027 0028 0029 002A 002B 060C 002D 002E 002F",
  "0660 0661 0662 0663 0664 0665 0666 0667 0668 0669 003A 061B 003C 003D 003E 061F",
  "274A 0621 0622 0623 0624 0625 0626 0627 0628 0629 062A 062B 062C 062D 062E 062F",
  "0630 0631 0632 0633 0634 0635 0636 0637 0638 0639 063A 005B 005C 005D 005E 005F",
  "0640 0641 0642 0643 0644 0645 0646 0647 0648 0649 064A 064B 064C 064D 064E 064F",
  "0650 0651 0652 067E 0679 0686 06D5 06A4 06AF 0688 0691 007B 007C 007D 0698 06D2"]⟩

/-- The table of `mac_croatian`. -/
def macCroatian : SingleByte := ⟨[
  "00C4 00C5 00C7 00C9 00D1 00D6 00DC 00E1 00E0 00E2 00E4 00E3 00E5 00E7 00E9 00E8",
  "00EA 00EB 00ED 00EC 00EE 00EF 00F1 00F3 00F2 00F4 00F6 00F5 00FA 00F9 00FB 00FC",
  "2020 00B0 00A2 00A3 00A7 2022 00B6 00DF 00AE 0160 2122 00B4 00A8 2260 017D 00D8",
  "221E 00B1 2264 2265 2206 00B5 2202 2211 220F 0161 222B 00AA 00BA 03A9 017E 00F8",
  "00BF 00A1 00AC 221A 0192 2248 0106 00AB 010C 2026 00A0 00C0 00C3 00D5 0152 0153",
  "0110 2014 201C 201D 2018 2019 00F7 25CA F8FF 00A9 2044 20AC 2039 203A 00C6 00BB",
  "2013 00B7 201A 201E 2030 00C2 0107 00C1 010D 00C8 00CD 00CE 00CF 00CC 00D3 00D4",
  "0111 00D2 00DA 00DB 00D9 0131 02C6 02DC 00AF 03C0 00CB 02DA 00B8 00CA 00E6 02C7"]⟩

/-- The table of `mac_cyrillic`. -/
def macCyrillic : SingleByte := ⟨[
  "0410 0411 0412 0413 0414 0415 0416 0417 0418 0419 041A 041B 041C 041D 041E 041F",
  "0420 0421 0422 0423 0424 0425 0426 0427 0428 0429 042A 042B 042C 042D 042E 042F",
  "2020 00B0 0490 00A3 00A7 2022 00B6 0406 00AE 00A9 2122 0402 0452 2260 0403 0453",
  "221E 00B1 2264 2265 0456 00B5 0491 0408 0404 0454 0407 0457 0409 0459 040A 045A",
  "0458 0405 00AC 221A 0192 2248 2206 00AB 00BB 2026 00A0 040B 045B 040C 045C 0455",
  "2013 2014 201C 201D 2018 2019 00F7 201E 040E 045E 040F 045F 2116 0401 0451 044F",
  "0430 0431 0432 0433 0434 0435 0436 0437 0438 0439 043A 043B 043C 043D 043E 043F",
  "0440 0441 0442 0443 0444 0445 0446 0447 0448 0449 044A 044B 044C 044D 044E 20AC"]⟩

/-- The table of `mac_farsi`. -/
def macFarsi : SingleByte := ⟨[
  "00C4 00A0 00C7 00C9 00D1 00D6 00DC 00E1 00E0 00E2 00E4 06BA 00AB 00E7 00E9 00E8",
  "00EA 00EB 00ED 2026 00EE 00EF 00F1 00F3 00BB 00F4 00F6 00F7 00FA 00F9 00FB 00FC",
  "0020 0021 0022 0023 0024 066A 0026 0027 0028 0029 002A 002B 060C 002D 002E 002F",
  "06F0 06F1 06F2 06F3 06F4 06F5 06F6 06F7 06F8 06F9 003A 061B 003C 003D 003E 061F",
  "274A 0621 0622 0623 0624 0625 0626 0627 0628 0629 062A 062B 062C 062D 062E 062F",
  "0630 0631 0632 0633 0634 0635 0636 0637 0638 0639 063A 005B 005C 005D 005E 005F",
  "0640 0641 0642 0643 0644 0645 0646 0647 0648 0649 064A 064B 064C 064D 064E 064F",
  "0650 0651 0652 067E 0679 0686 06D5 06A4 06AF 0688 0691 007B 007C 007D 0698 06D2"]⟩

/-- The table of `mac_greek`. -/
def macGreek : SingleByte := ⟨[
  "00C4 00B9 00B2 00C9 00B3 00D6 00DC 0385 00E0 00E2 00E4 0384 00A8 00E7 00E9 00E8",
  "00EA 00EB 00A3 2122 00EE 00EF 2022 00BD 2030 00F4 00F6 00A6 20AC 00F9 00FB 00FC",
  "2020 0393 0394 0398 039B 039E 03A0 00DF 00AE 00A9 03A3 03AA 00A7 2260 00B0 00B7",
  "0391 00B1 2264 2265 00A5 0392 0395 0396 0397 0399 039A 039C 03A6 03AB 03A8 03A9",
  "03AC 039D 00AC 039F 03A1 2248 03A4 00AB 00BB 2026 00A0 03A5 03A7 0386 0388 0153",
  "2013 2015 201C 201D 2018 2019 00F7 0389 038A 038C 038E 03AD 03AE 03AF 03CC 038F",
  "03CD 03B1 03B2 03C8 03B4 03B5 03C6 03B3 03B7 03B9 03BE 03BA 03BB 03BC 03BD 03BF",
  "03C0 03CE 03C1 03C3 03C4 03B8 03C9 03C2 03C7 03C5 03B6 03CA 03CB 0390 03B0 00AD"]⟩

/-- The table of `mac_iceland`. -/
def macIceland : SingleByte := ⟨[
  "00C4 00C5 00C7 00C9 00D1 00D6 00DC 00E1 00E0 00E2 00E4 00E3 00E5 00E7 00E9 00E8",
  "00EA 00EB 00ED 00EC 00EE 00EF 00F1 00F3 00F2 00F4 00F6 00F5 00FA 00F9 00FB 00FC",
  "00DD 00B0 00A2 00A3 00A7 2022 00B6 00DF 00AE 00A9 2122 00B4 00A8 2260 00C6 00D8",
  "221E 00B1 2264 2265 00A5 00B5 2202 2211 220F 03C0 222B 00AA 00BA 03A9 00E6 00F8",
  "00BF 00A1 00AC 221A 0192 2248 2206 00AB 00BB 2026 00A0 00C0 00C3 00D5 0152 0153",
  "2013 2014 201C 201D 2018 2019 00F7 25CA 00FF 0178 2044 20AC 00D0 00F0 00DE 00FE",
  "00FD 00B7 201A 201E 2030 00C2 00CA 00C1 00CB 00C8 00CD 00CE 00CF 00CC 00D3 00D4",
  "F8FF 00D2 00DA 00DB 00D9 0131 02C6 02DC 00AF 02D8 02D9 02DA 00B8 02DD 02DB 02C7"]⟩

/-- The table of `mac_latin2`. -/
def macLatin2 : SingleByte := ⟨[
  "00C4 0100 0101 00C9 0104 00D6 00DC 00E1 0105 010C 00E4 010D 0106 0107 00E9 0179",
  "017A 010E 00ED 010F 0112 0113 0116 00F3 0117 00F4 00F6 00F5 00FA 011A 011B 00FC",
  "2020 00B0 0118 00A3 00A7 2022 00B6 00DF 00AE 00A9 2122 0119 00A8 2260 0123 012E",
  "012F 012A 2264 2265 012B 0136 2202 2211 0142 013B 013C 013D 013E 0139 013A 0145",
  "0146 0143 00AC 221A 0144 0147 2206 00AB 00BB 2026 00A0 0148 0150 00D5 0151 014C",
  "2013 2014 201C 201D 2018 2019 00F7 25CA 014D 0154 0155 0158 2039 203A 0159 0156",
  "0157 0160 201A 201E 0161 015A 015B 00C1 0164 0165 00CD 017D 017E 016A 00D3 00D4",
  "016B 016E 00DA 016F 0170 0171 0172 0173 00DD 00FD 0137 017B 0141 017C 0122 02C7"]⟩

/-- The table of `mac_roman`. -/
def macRoman : SingleByte := ⟨[
  "00C4 00C5 00C7 00C9 00D1 00D6 00DC 00E1 00E0 00E2 00E4 00E3 00E5 00E7 00E9 00E8",
  "00EA 00EB 00ED 00EC 00EE 00EF 00F1 00F3 00F2 00F4 00F6 00F5 00FA 00F9 00FB 00FC",
  "2020 00B0 00A2 00A3 00A7 2022 00B6 00DF 00AE 00A9 2122 00B4 00A8 2260 00C6 00D8",
  "221E 00B1 2264 2265 00A5 00B5 2202 2211 220F 03C0 222B 00AA 00BA 03A9 00E6 00F8",
  "00BF 00A1 00AC 221A 0192 2248 2206 00AB 00BB 2026 00A0 00C0 00C3 00D5 0152 0153",
  "2013 2014 201C 201D 2018 2019 00F7 25CA 00FF 0178 2044 20AC 2039 203A FB01 FB02",
  "2021 00B7 201A 201E 2030 00C2 00CA 00C1 00CB 00C8 00CD 00CE 00CF 00CC 00D3 00D4",
  "F8FF 00D2 00DA 00DB 00D9 0131 02C6 02DC 00AF 02D8 02D9 02DA 00B8 02DD 02DB 02C7"]⟩

/-- The table of `mac_romanian`. -/
def macRomanian : SingleByte := ⟨[
  "00C4 00C5 00C7 00C9 00D1 00D6 00DC 00E1 00E0 00E2 00E4 00E3 00E5 00E7 00E9 00E8",
  "00EA 00EB 00ED 00EC 00EE 00EF 00F1 00F3 00F2 00F4 00F6 00F5 00FA 00F9 00FB 00FC",
  "2020 00B0 00A2 00A3 00A7 2022 00B6 00DF 00AE 00A9 2122 00B4 00A8 2260 0102 0218",
  "221E 00B1 2264 2265 00A5 00B5 2202 2211 220F 03C0 222B 00AA 00BA 03A9 0103 0219",
  "00BF 00A1 00AC 221A 0192 2248 2206 00AB 00BB 2026 00A0 00C0 00C3 00D5 0152 0153",
  "2013 2014 201C 201D 2018 2019 00F7 25CA 00FF 0178 2044 20AC 2039 203A 021A 021B",
  "2021 00B7 201A 201E 2030 00C2 00CA 00C1 00CB 00C8 00CD 00CE 00CF 00CC 00D3 00D4",
  "F8FF 00D2 00DA 00DB 00D9 0131 02C6 02DC 00AF 02D8 02D9 02DA 00B8 02DD 02DB 02C7"]⟩

/-- The table of `mac_turkish`. -/
def macTurkish : SingleByte := ⟨[
  "00C4 00C5 00C7 00C9 00D1 00D6 00DC 00E1 00E0 00E2 00E4 00E3 00E5 00E7 00E9 00E8",
  "00EA 00EB 00ED 00EC 00EE 00EF 00F1 00F3 00F2 00F4 00F6 00F5 00FA 00F9 00FB 00FC",
  "2020 00B0 00A2 00A3 00A7 2022 00B6 00DF 00AE 00A9 2122 00B4 00A8 2260 00C6 00D8",
  "221E 00B1 2264 2265 00A5 00B5 2202 2211 220F 03C0 222B 00AA 00BA 03A9 00E6 00F8",
  "00BF 00A1 00AC 221A 0192 2248 2206 00AB 00BB 2026 00A0 00C0 00C3 00D5 0152 0153",
  "2013 2014 201C 201D 2018 2019 00F7 25CA 00FF 0178 011E 011F 0130 0131 015E 015F",
  "2021 00B7 201A 201E 2030 00C2 00CA 00C1 00CB 00C8 00CD 00CE 00CF 00CC 00D3 00D4",
  "F8FF 00D2 00DA 00DB 00D9 F8A0 02C6 02DC 00AF 02D8 02D9 02DA 00B8 02DD 02DB 02C7"]⟩

/-- The table of `cp1006`. -/
def cp1006 : SingleByte := ⟨[
  "0080 0081 0082 0083 0084 0085 0086 0087 0088 0089 008A 008B 008C 008D 008E 008F",
  "0090 0091 0092 0093 0094 0095 0096 0097 0098 0099 009A 009B 009C 009D 009E 009F",
  "00A0 06F0 06F1 06F2 06F3 06F4 06F5 06F6 06F7 06F8 06F9 060C 061B 00AD 061F FE81",
  "FE8D FE8E FE8E FE8F FE91 FB56 FB58 FE93 FE95 FE97 FB66 FB68 FE99 FE9B FE9D FE9F",
  "FB7A FB7C FEA1 FEA3 FEA5 FEA7 FEA9 FB84 FEAB FEAD FB8C FEAF FB8A FEB1 FEB3 FEB5",
  "FEB7 FEB9 FEBB FEBD FEBF FEC1 FEC5 FEC9 FECA FECB FECC FECD FECE FECF FED0 FED1",
  "FED3 FED5 FED7 FED9 FEDB FB92 FB94 FEDD FEDF FEE0 FEE1 FEE3 FB9E FEE5 FEE7 FE85",
  "FEED FBA6 FBA8 FBA9 FBAA FE80 FE89 FE8A FE8B FEF1 FEF2 FEF3 FBB0 FBAE FE7C FE7D"]⟩

/-- The table of `hp_roman8`. -/
def hpRoman8 : SingleByte := ⟨[
  "0080 0081 0082 0083 0084 0085 0086 0087 0088 0089 008A 008B 008C 008D 008E 008F",
  "0090 0091 0092 0093 0094 0095 0096 0097 0098 0099 009A 009B 009C 009D 009E 009F",
  "00A0 00C0 00C2 00C8 00CA 00CB 00CE 00CF 00B4 02CB 02C6 00A8 02DC 00D9 00DB 20A4",
  "00AF 00DD 00FD 00B0 00C7 00E7 00D1 00F1 00A1 00BF 00A4 00A3 00A5 00A7 0192 00A2",
  "00E2 00EA 00F4 00FB 00E1 00E9 00F3 00FA 00E0 00E8 00F2 00F9 00E4 00EB 00F6 00FC",
  "00C5 00EE 00D8 00C6 00E5 00ED 00F8 00E6 00C4 00EC 00D6 00DC 00C9 00EF 00DF 00D4",
  "00C1 00C3 00E3 00D0 00F0 00CD 00CC 00D3 00D2 00D5 00F5 0160 0161 00DA 0178 00FF",
  "00DE 00FE 00B7 00B5 00B6 00BE 2014 00BC 00BD 00AA 00BA 00AB 25A0 00BB 00B1 FFFD"]⟩

/-- The table of `koi8_r`. -/
def koi8R : SingleByte := ⟨[
  "2500 2502 250C 2510 2514 2518 251C 2524 252C 2534 253C 2580 2584 2588 258C 2590",
  "2591 2592 2593 2320 25A0 2219 221A 2248 2264 2265 00A0 2321 00B0 00B2 00B7 00F7",
  "2550 2551 2552 0451 2553 2554 2555 2556 2557 2558 2559 255A 255B 255C 255D 255E",
  "255F 2560 2561 0401 2562 2563 2564 2565 2566 2567 2568 2569 256A 256B 256C 00A9",
  "044E 0430 0431 0446 0434 0435 0444 0433 0445 0438 0439 043A 043B 043C 043D 043E",
  "043F 044F 0440 0441 0442 0443 0436 0432 044C 044B 0437 0448 044D 0449 0447 044A",
  "042E 0410 0411 0426 0414 0415 0424 0413 0425 0418 0419 041A 041B 041C 041D 041E",
  "041F 042F 0420 0421 0422 0423 0416 0412 042C 042B 0417 0428 042D 0429 0427 042A"]⟩

/-- The table of `koi8_t`. -/
def koi8T : SingleByte := ⟨[
  "049B 0493 201A 0492 201E 2026 2020 2021 FFFD 2030 04B3 2039 04B2 04B7 04B6 FFFD",
  "049A 2018 2019 201C 201D 2022 2013 2014 FFFD 2122 FFFD 203A FFFD FFFD FFFD FFFD",
  "FFFD 04EF 04EE 0451 00A4 04E3 00A6 00A7 FFFD FFFD FFFD 00AB 00AC 00AD 00AE FFFD",
  "00B0 00B1 00B2 0401 FFFD 04E2 00B6 00B7 FFFD 2116 FFFD 00BB FFFD FFFD FFFD 00A9",
  "044E 0430 0431 0446 0434 0435 0444 0433 0445 0438 0439 043A 043B 043C 043D 043E",
  "043F 044F 0440 0441 0442 0443 0436 0432 044C 044B 0437 0448 044D 0449 0447 044A",
  "042E 0410 0411 0426 0414 0415 0424 0413 0425 0418 0419 041A 041B 041C 041D 041E",
  "041F 042F 0420 0421 0422 0423 0416 0412 042C 042B 0417 0428 042D 0429 0427 042A"]⟩

/-- The table of `koi8_u`. -/
def koi8U : SingleByte := ⟨[
  "2500 2502 250C 2510 2514 2518 251C 2524 252C 2534 253C 2580 2584 2588 258C 2590",
  "2591 2592 2593 2320 25A0 2219 221A 2248 2264 2265 00A0 2321 00B0 00B2 00B7 00F7",
  "2550 2551 2552 0451 0454 2554 0456 0457 2557 2558 2559 255A 255B 0491 255D 255E",
  "255F 2560 2561 0401 0404 2563 0406 0407 2566 2567 2568 2569 256A 0490 256C 00A9",
  "044E 0430 0431 0446 0434 0435 0444 0433 0445 0438 0439 043A 043B 043C 043D 043E",
  "043F 044F 0440 0441 0442 0443 0436 0432 044C 044B 0437 0448 044D 0449 0447 044A",
  "042E 0410 0411 0426 0414 0415 0424 0413 0425 0418 0419 041A 041B 041C 041D 041E",
  "041F 042F 0420 0421 0422 0423 0416 0412 042C 042B 0417 0428 042D 0429 0427 042A"]⟩

/-- The table of `kz1048`. -/
def kz1048 : SingleByte := ⟨[
  "0402 0403 201A 0453 201E 2026 2020 2021 20AC 2030 0409 2039 040A 049A 04BA 040F",
  "0452 2018 2019 201C 201D 2022 2013 2014 FFFD 2122 0459 203A 045A 049B 04BB 045F",
  "00A0 04B0 04B1 04D8 00A4 04E8 00A6 00A7 0401 00A9 0492 00AB 00AC 00AD 00AE 04AE",
  "00B0 00B1 0406 0456 04E9 00B5 00B6 00B7 0451 2116 0493 00BB 04D9 04A2 04A3 04AF",
  "0410 0411 0412 0413 0414 0415 0416 0417 0418 0419 041A 041B 041C 041D 041E 041F",
  "0420 0421 0422 0423 0424 0425 0426 0427 0428 0429 042A 042B 042C 042D 042E 042F",
  "0430 0431 0432 0433 0434 0435 0436 0437 0438 0439 043A 043B 043C 043D 043E 043F",
  "0440 0441 0442 0443 0444 0445 0446 0447 0448 0449 044A 044B 044C 044D 044E 044F"]⟩

/-- The table of `palmos`. -/
def palmos : SingleByte := ⟨[
  "20AC 0081 201A 0192 201E 2026 2020 2021 02C6 2030 0160 2039 0152 2666 2663 2665",
  "2660 2018 2019 201C 201D 2022 2013 2014 02DC 2122 0161 009B 0153 009D 009E 0178",
  "00A0 00A1 00A2 00A3 00A4 00A5 00A6 00A7 00A8 00A9 00AA 00AB 00AC 00AD 00AE 00AF",
  "00B0 00B1 00B2 00B3 00B4 00B5 00B6 00B7 00B8 00B9 00BA 00BB 00BC 00BD 00BE 00BF",
  "00C0 00C1 00C2 00C3 00C4 00C5 00C6 00C7 00C8 00C9 00CA 00CB 00CC 00CD 00CE 00CF",
  "00D0 00D1 00D2 00D3 00D4 00D5 00D6 00D7 00D8 00D9 00DA 00DB 00DC 00DD 00DE 00DF",
  "00E0 00E1 00E2 00E3 00E4 00E5 00E6 00E7 00E8 00E9 00EA 00EB 00EC 00ED 00EE 00EF",
  "00F0 00F1 00F2 00F3 00F4 00F5 00F6 00F7 00F8 00F9 00FA 00FB 00FC 00FD 00FE 00FF"]⟩

/-- The table of `ptcp154`. -/
def ptcp154 : SingleByte := ⟨[
  "0496 0492 04EE 0493 201E 2026 04B6 04AE 04B2 04AF 04A0 04E2 04A2 049A 04BA 04B8",
  "0497 2018 2019 201C 201D 2022 2013 2014 04B3 04B7 04A1 04E3 04A3 049B 04BB 04B9",
  "00A0 040E 045E 0408 04E8 0498 04B0 00A7 0401 00A9 04D8 00AB 00AC 04EF 00AE 049C",
  "00B0 04B1 0406 0456 0499 04E9 00B6 00B7 0451 2116 04D9 00BB 0458 04AA 04AB 049D",
  "0410 0411 0412 0413 0414 0415 0416 0417 0418 0419 041A 041B 041C 041D 041E 041F",
  "0420 0421 0422 0423 0424 0425 0426 0427 0428 0429 042A 042B 042C 042D 042E 042F",
  "0430 0431 0432 0433 0434 0435 0436 0437 0438 0439 043A 043B 043C 043D 043E 043F",
  "0440 0441 0442 0443 0444 0445 0446 0447 0448 0449 044A 044B 044C 044D 044E 044F"]⟩

end ApiRouter.Text.Charset.SingleByte
