/-!
# Eight-bit character sets

The characters of the bytes 128 to 255 in every set, as hexadecimal code points; `FFFD` stands for
a byte without a character.
-/
namespace TrackerSearch.Text

/-- The upper halves of the eight-bit sets. -/
def upperHalves : List (String × String) := [
  ("iso-8859-2",
    "80 81 82 83 84 85 86 87 88 89 8A 8B 8C 8D 8E 8F 90 91 92 93 94 95 96 97 98 99 9A 9B 9C 9D 9E
     9F A0 104 2D8 141 A4 13D 15A A7 A8 160 15E 164 179 AD 17D 17B B0 105 2DB 142 B4 13E 15B 2C7
     B8 161 15F 165 17A 2DD 17E 17C 154 C1 C2 102 C4 139 106 C7 10C C9 118 CB 11A CD CE 10E 110
     143 147 D3 D4 150 D6 D7 158 16E DA 170 DC DD 162 DF 155 E1 E2 103 E4 13A 107 E7 10D E9 119
     EB 11B ED EE 10F 111 144 148 F3 F4 151 F6 F7 159 16F FA 171 FC FD 163 2D9"),
  ("iso-8859-3",
    "80 81 82 83 84 85 86 87 88 89 8A 8B 8C 8D 8E 8F 90 91 92 93 94 95 96 97 98 99 9A 9B 9C 9D 9E
     9F A0 126 2D8 A3 A4 FFFD 124 A7 A8 130 15E 11E 134 AD FFFD 17B B0 127 B2 B3 B4 B5 125 B7 B8
     131 15F 11F 135 BD FFFD 17C C0 C1 C2 FFFD C4 10A 108 C7 C8 C9 CA CB CC CD CE CF FFFD D1 D2
     D3 D4 120 D6 D7 11C D9 DA DB DC 16C 15C DF E0 E1 E2 FFFD E4 10B 109 E7 E8 E9 EA EB EC ED EE
     EF FFFD F1 F2 F3 F4 121 F6 F7 11D F9 FA FB FC 16D 15D 2D9"),
  ("iso-8859-4",
    "80 81 82 83 84 85 86 87 88 89 8A 8B 8C 8D 8E 8F 90 91 92 93 94 95 96 97 98 99 9A 9B 9C 9D 9E
     9F A0 104 138 156 A4 128 13B A7 A8 160 112 122 166 AD 17D AF B0 105 2DB 157 B4 129 13C 2C7
     B8 161 113 123 167 14A 17E 14B 100 C1 C2 C3 C4 C5 C6 12E 10C C9 118 CB 116 CD CE 12A 110 145
     14C 136 D4 D5 D6 D7 D8 172 DA DB DC 168 16A DF 101 E1 E2 E3 E4 E5 E6 12F 10D E9 119 EB 117
     ED EE 12B 111 146 14D 137 F4 F5 F6 F7 F8 173 FA FB FC 169 16B 2D9"),
  ("iso-8859-5",
    "80 81 82 83 84 85 86 87 88 89 8A 8B 8C 8D 8E 8F 90 91 92 93 94 95 96 97 98 99 9A 9B 9C 9D 9E
     9F A0 401 402 403 404 405 406 407 408 409 40A 40B 40C AD 40E 40F 410 411 412 413 414 415 416
     417 418 419 41A 41B 41C 41D 41E 41F 420 421 422 423 424 425 426 427 428 429 42A 42B 42C 42D
     42E 42F 430 431 432 433 434 435 436 437 438 439 43A 43B 43C 43D 43E 43F 440 441 442 443 444
     445 446 447 448 449 44A 44B 44C 44D 44E 44F 2116 451 452 453 454 455 456 457 458 459 45A 45B
     45C A7 45E 45F"),
  ("iso-8859-6",
    "80 81 82 83 84 85 86 87 88 89 8A 8B 8C 8D 8E 8F 90 91 92 93 94 95 96 97 98 99 9A 9B 9C 9D 9E
     9F A0 FFFD FFFD FFFD A4 FFFD FFFD FFFD FFFD FFFD FFFD FFFD 60C AD FFFD FFFD FFFD FFFD FFFD
     FFFD FFFD FFFD FFFD FFFD FFFD FFFD FFFD 61B FFFD FFFD FFFD 61F FFFD 621 622 623 624 625 626
     627 628 629 62A 62B 62C 62D 62E 62F 630 631 632 633 634 635 636 637 638 639 63A FFFD FFFD
     FFFD FFFD FFFD 640 641 642 643 644 645 646 647 648 649 64A 64B 64C 64D 64E 64F 650 651 652
     FFFD FFFD FFFD FFFD FFFD FFFD FFFD FFFD FFFD FFFD FFFD FFFD FFFD"),
  ("iso-8859-7",
    "80 81 82 83 84 85 86 87 88 89 8A 8B 8C 8D 8E 8F 90 91 92 93 94 95 96 97 98 99 9A 9B 9C 9D 9E
     9F A0 2018 2019 A3 20AC 20AF A6 A7 A8 A9 37A AB AC AD FFFD 2015 B0 B1 B2 B3 384 385 386 B7
     388 389 38A BB 38C BD 38E 38F 390 391 392 393 394 395 396 397 398 399 39A 39B 39C 39D 39E
     39F 3A0 3A1 FFFD 3A3 3A4 3A5 3A6 3A7 3A8 3A9 3AA 3AB 3AC 3AD 3AE 3AF 3B0 3B1 3B2 3B3 3B4 3B5
     3B6 3B7 3B8 3B9 3BA 3BB 3BC 3BD 3BE 3BF 3C0 3C1 3C2 3C3 3C4 3C5 3C6 3C7 3C8 3C9 3CA 3CB 3CC
     3CD 3CE FFFD"),
  ("iso-8859-8",
    "80 81 82 83 84 85 86 87 88 89 8A 8B 8C 8D 8E 8F 90 91 92 93 94 95 96 97 98 99 9A 9B 9C 9D 9E
     9F A0 FFFD A2 A3 A4 A5 A6 A7 A8 A9 D7 AB AC AD AE AF B0 B1 B2 B3 B4 B5 B6 B7 B8 B9 F7 BB BC
     BD BE FFFD FFFD FFFD FFFD FFFD FFFD FFFD FFFD FFFD FFFD FFFD FFFD FFFD FFFD FFFD FFFD FFFD
     FFFD FFFD FFFD FFFD FFFD FFFD FFFD FFFD FFFD FFFD FFFD FFFD FFFD FFFD FFFD 2017 5D0 5D1 5D2
     5D3 5D4 5D5 5D6 5D7 5D8 5D9 5DA 5DB 5DC 5DD 5DE 5DF 5E0 5E1 5E2 5E3 5E4 5E5 5E6 5E7 5E8 5E9
     5EA FFFD FFFD 200E 200F FFFD"),
  ("iso-8859-9",
    "80 81 82 83 84 85 86 87 88 89 8A 8B 8C 8D 8E 8F 90 91 92 93 94 95 96 97 98 99 9A 9B 9C 9D 9E
     9F A0 A1 A2 A3 A4 A5 A6 A7 A8 A9 AA AB AC AD AE AF B0 B1 B2 B3 B4 B5 B6 B7 B8 B9 BA BB BC BD
     BE BF C0 C1 C2 C3 C4 C5 C6 C7 C8 C9 CA CB CC CD CE CF 11E D1 D2 D3 D4 D5 D6 D7 D8 D9 DA DB
     DC 130 15E DF E0 E1 E2 E3 E4 E5 E6 E7 E8 E9 EA EB EC ED EE EF 11F F1 F2 F3 F4 F5 F6 F7 F8 F9
     FA FB FC 131 15F FF"),
  ("iso-8859-10",
    "80 81 82 83 84 85 86 87 88 89 8A 8B 8C 8D 8E 8F 90 91 92 93 94 95 96 97 98 99 9A 9B 9C 9D 9E
     9F A0 104 112 122 12A 128 136 A7 13B 110 160 166 17D AD 16A 14A B0 105 113 123 12B 129 137
     B7 13C 111 161 167 17E 2015 16B 14B 100 C1 C2 C3 C4 C5 C6 12E 10C C9 118 CB 116 CD CE CF D0
     145 14C D3 D4 D5 D6 168 D8 172 DA DB DC DD DE DF 101 E1 E2 E3 E4 E5 E6 12F 10D E9 119 EB 117
     ED EE EF F0 146 14D F3 F4 F5 F6 169 F8 173 FA FB FC FD FE 138"),
  ("iso-8859-11",
    "80 81 82 83 84 85 86 87 88 89 8A 8B 8C 8D 8E 8F 90 91 92 93 94 95 96 97 98 99 9A 9B 9C 9D 9E
     9F A0 E01 E02 E03 E04 E05 E06 E07 E08 E09 E0A E0B E0C E0D E0E E0F E10 E11 E12 E13 E14 E15
     E16 E17 E18 E19 E1A E1B E1C E1D E1E E1F E20 E21 E22 E23 E24 E25 E26 E27 E28 E29 E2A E2B E2C
     E2D E2E E2F E30 E31 E32 E33 E34 E35 E36 E37 E38 E39 E3A FFFD FFFD FFFD FFFD E3F E40 E41 E42
     E43 E44 E45 E46 E47 E48 E49 E4A E4B E4C E4D E4E E4F E50 E51 E52 E53 E54 E55 E56 E57 E58 E59
     E5A E5B FFFD FFFD FFFD FFFD"),
  ("iso-8859-13",
    "80 81 82 83 84 85 86 87 88 89 8A 8B 8C 8D 8E 8F 90 91 92 93 94 95 96 97 98 99 9A 9B 9C 9D 9E
     9F A0 201D A2 A3 A4 201E A6 A7 D8 A9 156 AB AC AD AE C6 B0 B1 B2 B3 201C B5 B6 B7 F8 B9 157
     BB BC BD BE E6 104 12E 100 106 C4 C5 118 112 10C C9 179 116 122 136 12A 13B 160 143 145 D3
     14C D5 D6 D7 172 141 15A 16A DC 17B 17D DF 105 12F 101 107 E4 E5 119 113 10D E9 17A 117 123
     137 12B 13C 161 144 146 F3 14D F5 F6 F7 173 142 15B 16B FC 17C 17E 2019"),
  ("iso-8859-14",
    "80 81 82 83 84 85 86 87 88 89 8A 8B 8C 8D 8E 8F 90 91 92 93 94 95 96 97 98 99 9A 9B 9C 9D 9E
     9F A0 1E02 1E03 A3 10A 10B 1E0A A7 1E80 A9 1E82 1E0B 1EF2 AD AE 178 1E1E 1E1F 120 121 1E40
     1E41 B6 1E56 1E81 1E57 1E83 1E60 1EF3 1E84 1E85 1E61 C0 C1 C2 C3 C4 C5 C6 C7 C8 C9 CA CB CC
     CD CE CF 174 D1 D2 D3 D4 D5 D6 1E6A D8 D9 DA DB DC DD 176 DF E0 E1 E2 E3 E4 E5 E6 E7 E8 E9
     EA EB EC ED EE EF 175 F1 F2 F3 F4 F5 F6 1E6B F8 F9 FA FB FC FD 177 FF"),
  ("iso-8859-15",
    "80 81 82 83 84 85 86 87 88 89 8A 8B 8C 8D 8E 8F 90 91 92 93 94 95 96 97 98 99 9A 9B 9C 9D 9E
     9F A0 A1 A2 A3 20AC A5 160 A7 161 A9 AA AB AC AD AE AF B0 B1 B2 B3 17D B5 B6 B7 17E B9 BA BB
     152 153 178 BF C0 C1 C2 C3 C4 C5 C6 C7 C8 C9 CA CB CC CD CE CF D0 D1 D2 D3 D4 D5 D6 D7 D8 D9
     DA DB DC DD DE DF E0 E1 E2 E3 E4 E5 E6 E7 E8 E9 EA EB EC ED EE EF F0 F1 F2 F3 F4 F5 F6 F7 F8
     F9 FA FB FC FD FE FF"),
  ("iso-8859-16",
    "80 81 82 83 84 85 86 87 88 89 8A 8B 8C 8D 8E 8F 90 91 92 93 94 95 96 97 98 99 9A 9B 9C 9D 9E
     9F A0 104 105 141 20AC 201E 160 A7 161 A9 218 AB 179 AD 17A 17B B0 B1 10C 142 17D 201D B6 B7
     17E 10D 219 BB 152 153 178 17C C0 C1 C2 102 C4 106 C6 C7 C8 C9 CA CB CC CD CE CF 110 143 D2
     D3 D4 150 D6 15A 170 D9 DA DB DC 118 21A DF E0 E1 E2 103 E4 107 E6 E7 E8 E9 EA EB EC ED EE
     EF 111 144 F2 F3 F4 151 F6 15B 171 F9 FA FB FC 119 21B FF"),
  ("windows-1250",
    "20AC FFFD 201A FFFD 201E 2026 2020 2021 FFFD 2030 160 2039 15A 164 17D 179 FFFD 2018 2019
     201C 201D 2022 2013 2014 FFFD 2122 161 203A 15B 165 17E 17A A0 2C7 2D8 141 A4 104 A6 A7 A8
     A9 15E AB AC AD AE 17B B0 B1 2DB 142 B4 B5 B6 B7 B8 105 15F BB 13D 2DD 13E 17C 154 C1 C2 102
     C4 139 106 C7 10C C9 118 CB 11A CD CE 10E 110 143 147 D3 D4 150 D6 D7 158 16E DA 170 DC DD
     162 DF 155 E1 E2 103 E4 13A 107 E7 10D E9 119 EB 11B ED EE 10F 111 144 148 F3 F4 151 F6 F7
     159 16F FA 171 FC FD 163 2D9"),
  ("windows-1251",
    "402 403 201A 453 201E 2026 2020 2021 20AC 2030 409 2039 40A 40C 40B 40F 452 2018 2019 201C
     201D 2022 2013 2014 FFFD 2122 459 203A 45A 45C 45B 45F A0 40E 45E 408 A4 490 A6 A7 401 A9
     404 AB AC AD AE 407 B0 B1 406 456 491 B5 B6 B7 451 2116 454 BB 458 405 455 457 410 411 412
     413 414 415 416 417 418 419 41A 41B 41C 41D 41E 41F 420 421 422 423 424 425 426 427 428 429
     42A 42B 42C 42D 42E 42F 430 431 432 433 434 435 436 437 438 439 43A 43B 43C 43D 43E 43F 440
     441 442 443 444 445 446 447 448 449 44A 44B 44C 44D 44E 44F"),
  ("windows-1252",
    "20AC FFFD 201A 192 201E 2026 2020 2021 2C6 2030 160 2039 152 FFFD 17D FFFD FFFD 2018 2019
     201C 201D 2022 2013 2014 2DC 2122 161 203A 153 FFFD 17E 178 A0 A1 A2 A3 A4 A5 A6 A7 A8 A9 AA
     AB AC AD AE AF B0 B1 B2 B3 B4 B5 B6 B7 B8 B9 BA BB BC BD BE BF C0 C1 C2 C3 C4 C5 C6 C7 C8 C9
     CA CB CC CD CE CF D0 D1 D2 D3 D4 D5 D6 D7 D8 D9 DA DB DC DD DE DF E0 E1 E2 E3 E4 E5 E6 E7 E8
     E9 EA EB EC ED EE EF F0 F1 F2 F3 F4 F5 F6 F7 F8 F9 FA FB FC FD FE FF"),
  ("windows-1253",
    "20AC FFFD 201A 192 201E 2026 2020 2021 FFFD 2030 FFFD 2039 FFFD FFFD FFFD FFFD FFFD 2018
     2019 201C 201D 2022 2013 2014 FFFD 2122 FFFD 203A FFFD FFFD FFFD FFFD A0 385 386 A3 A4 A5 A6
     A7 A8 A9 FFFD AB AC AD AE 2015 B0 B1 B2 B3 384 B5 B6 B7 388 389 38A BB 38C BD 38E 38F 390
     391 392 393 394 395 396 397 398 399 39A 39B 39C 39D 39E 39F 3A0 3A1 FFFD 3A3 3A4 3A5 3A6 3A7
     3A8 3A9 3AA 3AB 3AC 3AD 3AE 3AF 3B0 3B1 3B2 3B3 3B4 3B5 3B6 3B7 3B8 3B9 3BA 3BB 3BC 3BD 3BE
     3BF 3C0 3C1 3C2 3C3 3C4 3C5 3C6 3C7 3C8 3C9 3CA 3CB 3CC 3CD 3CE FFFD"),
  ("windows-1254",
    "20AC FFFD 201A 192 201E 2026 2020 2021 2C6 2030 160 2039 152 FFFD FFFD FFFD FFFD 2018 2019
     201C 201D 2022 2013 2014 2DC 2122 161 203A 153 FFFD FFFD 178 A0 A1 A2 A3 A4 A5 A6 A7 A8 A9
     AA AB AC AD AE AF B0 B1 B2 B3 B4 B5 B6 B7 B8 B9 BA BB BC BD BE BF C0 C1 C2 C3 C4 C5 C6 C7 C8
     C9 CA CB CC CD CE CF 11E D1 D2 D3 D4 D5 D6 D7 D8 D9 DA DB DC 130 15E DF E0 E1 E2 E3 E4 E5 E6
     E7 E8 E9 EA EB EC ED EE EF 11F F1 F2 F3 F4 F5 F6 F7 F8 F9 FA FB FC 131 15F FF"),
  ("windows-1255",
    "20AC FFFD 201A 192 201E 2026 2020 2021 2C6 2030 FFFD 2039 FFFD FFFD FFFD FFFD FFFD 2018 2019
     201C 201D 2022 2013 2014 2DC 2122 FFFD 203A FFFD FFFD FFFD FFFD A0 A1 A2 A3 20AA A5 A6 A7 A8
     A9 D7 AB AC AD AE AF B0 B1 B2 B3 B4 B5 B6 B7 B8 B9 F7 BB BC BD BE BF 5B0 5B1 5B2 5B3 5B4 5B5
     5B6 5B7 5B8 5B9 FFFD 5BB 5BC 5BD 5BE 5BF 5C0 5C1 5C2 5C3 5F0 5F1 5F2 5F3 5F4 FFFD FFFD FFFD
     FFFD FFFD FFFD FFFD 5D0 5D1 5D2 5D3 5D4 5D5 5D6 5D7 5D8 5D9 5DA 5DB 5DC 5DD 5DE 5DF 5E0 5E1
     5E2 5E3 5E4 5E5 5E6 5E7 5E8 5E9 5EA FFFD FFFD 200E 200F FFFD"),
  ("windows-1256",
    "20AC 67E 201A 192 201E 2026 2020 2021 2C6 2030 679 2039 152 686 698 688 6AF 2018 2019 201C
     201D 2022 2013 2014 6A9 2122 691 203A 153 200C 200D 6BA A0 60C A2 A3 A4 A5 A6 A7 A8 A9 6BE
     AB AC AD AE AF B0 B1 B2 B3 B4 B5 B6 B7 B8 B9 61B BB BC BD BE 61F 6C1 621 622 623 624 625 626
     627 628 629 62A 62B 62C 62D 62E 62F 630 631 632 633 634 635 636 D7 637 638 639 63A 640 641
     642 643 E0 644 E2 645 646 647 648 E7 E8 E9 EA EB 649 64A EE EF 64B 64C 64D 64E F4 64F 650 F7
     651 F9 652 FB FC 200E 200F 6D2"),
  ("windows-1257",
    "20AC FFFD 201A FFFD 201E 2026 2020 2021 FFFD 2030 FFFD 2039 FFFD A8 2C7 B8 FFFD 2018 2019
     201C 201D 2022 2013 2014 FFFD 2122 FFFD 203A FFFD AF 2DB FFFD A0 FFFD A2 A3 A4 FFFD A6 A7 D8
     A9 156 AB AC AD AE C6 B0 B1 B2 B3 B4 B5 B6 B7 F8 B9 157 BB BC BD BE E6 104 12E 100 106 C4 C5
     118 112 10C C9 179 116 122 136 12A 13B 160 143 145 D3 14C D5 D6 D7 172 141 15A 16A DC 17B
     17D DF 105 12F 101 107 E4 E5 119 113 10D E9 17A 117 123 137 12B 13C 161 144 146 F3 14D F5 F6
     F7 173 142 15B 16B FC 17C 17E 2D9"),
  ("windows-1258",
    "20AC FFFD 201A 192 201E 2026 2020 2021 2C6 2030 FFFD 2039 152 FFFD FFFD FFFD FFFD 2018 2019
     201C 201D 2022 2013 2014 2DC 2122 FFFD 203A 153 FFFD FFFD 178 A0 A1 A2 A3 A4 A5 A6 A7 A8 A9
     AA AB AC AD AE AF B0 B1 B2 B3 B4 B5 B6 B7 B8 B9 BA BB BC BD BE BF C0 C1 C2 102 C4 C5 C6 C7
     C8 C9 CA CB 300 CD CE CF 110 D1 309 D3 D4 1A0 D6 D7 D8 D9 DA DB DC 1AF 303 DF E0 E1 E2 103
     E4 E5 E6 E7 E8 E9 EA EB 301 ED EE EF 111 F1 323 F3 F4 1A1 F6 F7 F8 F9 FA FB FC 1B0 20AB FF"),
  ("koi8-r",
    "2500 2502 250C 2510 2514 2518 251C 2524 252C 2534 253C 2580 2584 2588 258C 2590 2591 2592
     2593 2320 25A0 2219 221A 2248 2264 2265 A0 2321 B0 B2 B7 F7 2550 2551 2552 451 2553 2554
     2555 2556 2557 2558 2559 255A 255B 255C 255D 255E 255F 2560 2561 401 2562 2563 2564 2565
     2566 2567 2568 2569 256A 256B 256C A9 44E 430 431 446 434 435 444 433 445 438 439 43A 43B
     43C 43D 43E 43F 44F 440 441 442 443 436 432 44C 44B 437 448 44D 449 447 44A 42E 410 411 426
     414 415 424 413 425 418 419 41A 41B 41C 41D 41E 41F 42F 420 421 422 423 416 412 42C 42B 417
     428 42D 429 427 42A"),
  ("koi8-u",
    "2500 2502 250C 2510 2514 2518 251C 2524 252C 2534 253C 2580 2584 2588 258C 2590 2591 2592
     2593 2320 25A0 2219 221A 2248 2264 2265 A0 2321 B0 B2 B7 F7 2550 2551 2552 451 454 2554 456
     457 2557 2558 2559 255A 255B 491 255D 255E 255F 2560 2561 401 404 2563 406 407 2566 2567
     2568 2569 256A 490 256C A9 44E 430 431 446 434 435 444 433 445 438 439 43A 43B 43C 43D 43E
     43F 44F 440 441 442 443 436 432 44C 44B 437 448 44D 449 447 44A 42E 410 411 426 414 415 424
     413 425 418 419 41A 41B 41C 41D 41E 41F 42F 420 421 422 423 416 412 42C 42B 417 428 42D 429
     427 42A"),
  ("cp866",
    "410 411 412 413 414 415 416 417 418 419 41A 41B 41C 41D 41E 41F 420 421 422 423 424 425 426
     427 428 429 42A 42B 42C 42D 42E 42F 430 431 432 433 434 435 436 437 438 439 43A 43B 43C 43D
     43E 43F 2591 2592 2593 2502 2524 2561 2562 2556 2555 2563 2551 2557 255D 255C 255B 2510 2514
     2534 252C 251C 2500 253C 255E 255F 255A 2554 2569 2566 2560 2550 256C 2567 2568 2564 2565
     2559 2558 2552 2553 256B 256A 2518 250C 2588 2584 258C 2590 2580 440 441 442 443 444 445 446
     447 448 449 44A 44B 44C 44D 44E 44F 401 451 404 454 407 457 40E 45E B0 2219 B7 221A 2116 A4
     25A0 A0"),
  ("cp437",
    "C7 FC E9 E2 E4 E0 E5 E7 EA EB E8 EF EE EC C4 C5 C9 E6 C6 F4 F6 F2 FB F9 FF D6 DC A2 A3 A5
     20A7 192 E1 ED F3 FA F1 D1 AA BA BF 2310 AC BD BC A1 AB BB 2591 2592 2593 2502 2524 2561
     2562 2556 2555 2563 2551 2557 255D 255C 255B 2510 2514 2534 252C 251C 2500 253C 255E 255F
     255A 2554 2569 2566 2560 2550 256C 2567 2568 2564 2565 2559 2558 2552 2553 256B 256A 2518
     250C 2588 2584 258C 2590 2580 3B1 DF 393 3C0 3A3 3C3 B5 3C4 3A6 398 3A9 3B4 221E 3C6 3B5
     2229 2261 B1 2265 2264 2320 2321 F7 2248 B0 2219 B7 221A 207F B2 25A0 A0"),
  ("cp850",
    "C7 FC E9 E2 E4 E0 E5 E7 EA EB E8 EF EE EC C4 C5 C9 E6 C6 F4 F6 F2 FB F9 FF D6 DC F8 A3 D8 D7
     192 E1 ED F3 FA F1 D1 AA BA BF AE AC BD BC A1 AB BB 2591 2592 2593 2502 2524 C1 C2 C0 A9
     2563 2551 2557 255D A2 A5 2510 2514 2534 252C 251C 2500 253C E3 C3 255A 2554 2569 2566 2560
     2550 256C A4 F0 D0 CA CB C8 131 CD CE CF 2518 250C 2588 2584 A6 CC 2580 D3 DF D4 D2 F5 D5 B5
     FE DE DA DB D9 FD DD AF B4 AD B1 2017 BE B6 A7 F7 B8 B0 A8 B7 B9 B3 B2 25A0 A0"),
  ("cp852",
    "C7 FC E9 E2 E4 16F 107 E7 142 EB 150 151 EE 179 C4 106 C9 139 13A F4 F6 13D 13E 15A 15B D6
     DC 164 165 141 D7 10D E1 ED F3 FA 104 105 17D 17E 118 119 AC 17A 10C 15F AB BB 2591 2592
     2593 2502 2524 C1 C2 11A 15E 2563 2551 2557 255D 17B 17C 2510 2514 2534 252C 251C 2500 253C
     102 103 255A 2554 2569 2566 2560 2550 256C A4 111 110 10E CB 10F 147 CD CE 11B 2518 250C
     2588 2584 162 16E 2580 D3 DF D4 143 144 148 160 161 154 DA 155 170 FD DD 163 B4 AD 2DD 2DB
     2C7 2D8 A7 F7 B8 B0 A8 2D9 171 158 159 25A0 A0"),
  ("cp874",
    "20AC FFFD FFFD FFFD FFFD 2026 FFFD FFFD FFFD FFFD FFFD FFFD FFFD FFFD FFFD FFFD FFFD 2018
     2019 201C 201D 2022 2013 2014 FFFD FFFD FFFD FFFD FFFD FFFD FFFD FFFD A0 E01 E02 E03 E04 E05
     E06 E07 E08 E09 E0A E0B E0C E0D E0E E0F E10 E11 E12 E13 E14 E15 E16 E17 E18 E19 E1A E1B E1C
     E1D E1E E1F E20 E21 E22 E23 E24 E25 E26 E27 E28 E29 E2A E2B E2C E2D E2E E2F E30 E31 E32 E33
     E34 E35 E36 E37 E38 E39 E3A FFFD FFFD FFFD FFFD E3F E40 E41 E42 E43 E44 E45 E46 E47 E48 E49
     E4A E4B E4C E4D E4E E4F E50 E51 E52 E53 E54 E55 E56 E57 E58 E59 E5A E5B FFFD FFFD FFFD FFFD"),
  ("macintosh",
    "C4 C5 C7 C9 D1 D6 DC E1 E0 E2 E4 E3 E5 E7 E9 E8 EA EB ED EC EE EF F1 F3 F2 F4 F6 F5 FA F9 FB
     FC 2020 B0 A2 A3 A7 2022 B6 DF AE A9 2122 B4 A8 2260 C6 D8 221E B1 2264 2265 A5 B5 2202 2211
     220F 3C0 222B AA BA 3A9 E6 F8 BF A1 AC 221A 192 2248 2206 AB BB 2026 A0 C0 C3 D5 152 153
     2013 2014 201C 201D 2018 2019 F7 25CA FF 178 2044 20AC 2039 203A FB01 FB02 2021 B7 201A 201E
     2030 C2 CA C1 CB C8 CD CE CF CC D3 D4 F8FF D2 DA DB D9 131 2C6 2DC AF 2D8 2D9 2DA B8 2DD 2DB
     2C7"),
  ("x-mac-cyrillic",
    "410 411 412 413 414 415 416 417 418 419 41A 41B 41C 41D 41E 41F 420 421 422 423 424 425 426
     427 428 429 42A 42B 42C 42D 42E 42F 2020 B0 490 A3 A7 2022 B6 406 AE A9 2122 402 452 2260
     403 453 221E B1 2264 2265 456 B5 491 408 404 454 407 457 409 459 40A 45A 458 405 AC 221A 192
     2248 2206 AB BB 2026 A0 40B 45B 40C 45C 455 2013 2014 201C 201D 2018 2019 F7 201E 40E 45E
     40F 45F 2116 401 451 44F 430 431 432 433 434 435 436 437 438 439 43A 43B 43C 43D 43E 43F 440
     441 442 443 444 445 446 447 448 449 44A 44B 44C 44D 44E 20AC")]

end TrackerSearch.Text
