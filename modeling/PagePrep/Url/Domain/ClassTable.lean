import PagePrep.Text.CodeTable

/-!
# Classes of domain characters

The direction of a character in running text, how it joins its neighbours, and whether it is a
mark on the character before it.
-/

set_option autoImplicit false

namespace PagePrep.Url.Domain

open Text

/-- The direction class from each point on: left to right, right to left, Arabic letter, Arabic
number, European number, separator, common separator, terminator, neutral, boundary, mark, other. -/
def directions : CodeMap := .ofText "
    0 9 9 b e 9 1c b 21 8 23 7 26 8 2b 5 2c 6 2d 5 2e 6 30 4 3a 6 3b 8 41 0 5b 8 61 0 7b 8 7f 9
    85 b 86 9 a0 6 a1 8 a2 7 a6 8 aa 0 ab 8 ad 9 ae 8 b0 7 b2 4 b4 8 b5 0 b6 8 b9 4 ba 0 bb 8 c0
    0 d7 8 d8 0 f7 8 f8 0 2b9 8 2bb 0 2c2 8 2d0 0 2d2 8 2e0 0 2e5 8 2ee 0 2ef 8 300 a 370 0 374 8
    376 0 37e 8 37f 0 384 8 386 0 387 8 388 0 3f6 8 3f7 0 483 a 48a 0 58a 8 58b 0 58d 8 58f 7 590
    1 591 a 5be 1 5bf a 5c0 1 5c1 a 5c3 1 5c4 a 5c6 1 5c7 a 5c8 1 600 3 606 8 608 2 609 7 60b 2
    60c 6 60d 2 60e 8 610 a 61b 2 64b a 660 3 66a 7 66b 3 66d 2 670 a 671 2 6d6 a 6dd 3 6de 8 6df
    a 6e5 2 6e7 a 6e9 8 6ea a 6ee 2 6f0 4 6fa 2 711 a 712 2 730 a 74b 2 7a6 a 7b1 2 7c0 1 7eb a
    7f4 1 7f6 8 7fa 1 7fd a 7fe 1 816 a 81a 1 81b a 824 1 825 a 828 1 829 a 82e 1 859 a 85c 1 860
    2 890 3 892 2 898 a 8a0 2 8ca a 8e2 3 8e3 a 903 0 93a a 93b 0 93c a 93d 0 941 a 949 0 94d a
    94e 0 951 a 958 0 962 a 964 0 981 a 982 0 9bc a 9bd 0 9c1 a 9c5 0 9cd a 9ce 0 9e2 a 9e4 0 9f2
    7 9f4 0 9fb 7 9fc 0 9fe a 9ff 0 a01 a a03 0 a3c a a3d 0 a41 a a43 0 a47 a a49 0 a4b a a4e 0
    a51 a a52 0 a70 a a72 0 a75 a a76 0 a81 a a83 0 abc a abd 0 ac1 a ac6 0 ac7 a ac9 0 acd a ace
    0 ae2 a ae4 0 af1 7 af2 0 afa a b00 0 b01 a b02 0 b3c a b3d 0 b3f a b40 0 b41 a b45 0 b4d a
    b4e 0 b55 a b57 0 b62 a b64 0 b82 a b83 0 bc0 a bc1 0 bcd a bce 0 bf3 8 bf9 7 bfa 8 bfb 0 c00
    a c01 0 c04 a c05 0 c3c a c3d 0 c3e a c41 0 c46 a c49 0 c4a a c4e 0 c55 a c57 0 c62 a c64 0
    c78 8 c7f 0 c81 a c82 0 cbc a cbd 0 ccc a cce 0 ce2 a ce4 0 d00 a d02 0 d3b a d3d 0 d41 a d45
    0 d4d a d4e 0 d62 a d64 0 d81 a d82 0 dca a dcb 0 dd2 a dd5 0 dd6 a dd7 0 e31 a e32 0 e34 a
    e3b 0 e3f 7 e40 0 e47 a e4f 0 eb1 a eb2 0 eb4 a ebd 0 ec8 a ecf 0 f18 a f1a 0 f35 a f36 0 f37
    a f38 0 f39 a f3a 8 f3e 0 f71 a f7f 0 f80 a f85 0 f86 a f88 0 f8d a f98 0 f99 a fbd 0 fc6 a
    fc7 0 102d a 1031 0 1032 a 1038 0 1039 a 103b 0 103d a 103f 0 1058 a 105a 0 105e a 1061 0
    1071 a 1075 0 1082 a 1083 0 1085 a 1087 0 108d a 108e 0 109d a 109e 0 135d a 1360 0 1390 8
    139a 0 1400 8 1401 0 1680 b 1681 0 169b 8 169d 0 1712 a 1715 0 1732 a 1734 0 1752 a 1754 0
    1772 a 1774 0 17b4 a 17b6 0 17b7 a 17be 0 17c6 a 17c7 0 17c9 a 17d4 0 17db 7 17dc 0 17dd a
    17de 0 17f0 8 17fa 0 1800 8 180b a 180e 9 180f a 1810 0 1885 a 1887 0 18a9 a 18aa 0 1920 a
    1923 0 1927 a 1929 0 1932 a 1933 0 1939 a 193c 0 1940 8 1941 0 1944 8 1946 0 19de 8 1a00 0
    1a17 a 1a19 0 1a1b a 1a1c 0 1a56 a 1a57 0 1a58 a 1a5f 0 1a60 a 1a61 0 1a62 a 1a63 0 1a65 a
    1a6d 0 1a73 a 1a7d 0 1a7f a 1a80 0 1ab0 a 1acf 0 1b00 a 1b04 0 1b34 a 1b35 0 1b36 a 1b3b 0
    1b3c a 1b3d 0 1b42 a 1b43 0 1b6b a 1b74 0 1b80 a 1b82 0 1ba2 a 1ba6 0 1ba8 a 1baa 0 1bab a
    1bae 0 1be6 a 1be7 0 1be8 a 1bea 0 1bed a 1bee 0 1bef a 1bf2 0 1c2c a 1c34 0 1c36 a 1c38 0
    1cd0 a 1cd3 0 1cd4 a 1ce1 0 1ce2 a 1ce9 0 1ced a 1cee 0 1cf4 a 1cf5 0 1cf8 a 1cfa 0 1dc0 a
    1e00 0 1fbd 8 1fbe 0 1fbf 8 1fc2 0 1fcd 8 1fd0 0 1fdd 8 1fe0 0 1fed 8 1ff0 0 1ffd 8 1fff 0
    2000 b 200b 9 200e 0 200f 1 2010 8 2028 b 202f 6 2030 7 2035 8 2044 6 2045 8 205f b 2060 9
    2066 b 206a 9 2070 4 2071 0 2074 4 207a 5 207c 8 207f 0 2080 4 208a 5 208c 8 208f 0 20a0 7
    20d0 a 20f1 0 2100 8 2102 0 2103 8 2107 0 2108 8 210a 0 2114 8 2115 0 2116 8 2119 0 211e 8
    2124 0 2125 8 2126 0 2127 8 2128 0 2129 8 212a 0 212e 7 212f 0 213a 8 213c 0 2140 8 2145 0
    214a 8 214e 0 2150 8 2160 0 2189 8 218c 0 2190 8 2212 5 2213 7 2214 8 2336 0 237b 8 2395 0
    2396 8 2427 0 2440 8 244b 0 2460 8 2488 4 249c 0 24ea 8 26ac 0 26ad 8 2800 0 2900 8 2b74 0
    2b76 8 2b96 0 2b97 8 2c00 0 2ce5 8 2ceb 0 2cef a 2cf2 0 2cf9 8 2d00 0 2d7f a 2d80 0 2de0 a
    2e00 8 2e5e 0 2e80 8 2e9a 0 2e9b 8 2ef4 0 2f00 8 2fd6 0 2ff0 8 2ffc 0 3000 b 3001 8 3005 0
    3008 8 3021 0 302a a 302e 0 3030 8 3031 0 3036 8 3038 0 303d 8 3040 0 3099 a 309b 8 309d 0
    30a0 8 30a1 0 30fb 8 30fc 0 31c0 8 31e4 0 321d 8 321f 0 3250 8 3260 0 327c 8 327f 0 32b1 8
    32c0 0 32cc 8 32d0 0 3377 8 337b 0 33de 8 33e0 0 33ff 8 3400 0 4dc0 8 4e00 0 a490 8 a4c7 0
    a60d 8 a610 0 a66f a a673 8 a674 a a67e 8 a680 0 a69e a a6a0 0 a6f0 a a6f2 0 a700 8 a722 0
    a788 8 a789 0 a802 a a803 0 a806 a a807 0 a80b a a80c 0 a825 a a827 0 a828 8 a82c a a82d 0
    a838 7 a83a 0 a874 8 a878 0 a8c4 a a8c6 0 a8e0 a a8f2 0 a8ff a a900 0 a926 a a92e 0 a947 a
    a952 0 a980 a a983 0 a9b3 a a9b4 0 a9b6 a a9ba 0 a9bc a a9be 0 a9e5 a a9e6 0 aa29 a aa2f 0
    aa31 a aa33 0 aa35 a aa37 0 aa43 a aa44 0 aa4c a aa4d 0 aa7c a aa7d 0 aab0 a aab1 0 aab2 a
    aab5 0 aab7 a aab9 0 aabe a aac0 0 aac1 a aac2 0 aaec a aaee 0 aaf6 a aaf7 0 ab6a 8 ab6c 0
    abe5 a abe6 0 abe8 a abe9 0 abed a abee 0 fb1d 1 fb1e a fb1f 1 fb29 5 fb2a 1 fb50 2 fd3e 8
    fd50 2 fdcf 8 fdd0 9 fdf0 2 fdfd 8 fe00 a fe10 8 fe1a 0 fe20 a fe30 8 fe50 6 fe51 8 fe52 6
    fe53 0 fe54 8 fe55 6 fe56 8 fe5f 7 fe60 8 fe62 5 fe64 8 fe67 0 fe68 8 fe69 7 fe6b 8 fe6c 0
    fe70 2 feff 9 ff00 0 ff01 8 ff03 7 ff06 8 ff0b 5 ff0c 6 ff0d 5 ff0e 6 ff10 4 ff1a 6 ff1b 8
    ff21 0 ff3b 8 ff41 0 ff5b 8 ff66 0 ffe0 7 ffe2 8 ffe5 7 ffe7 0 ffe8 8 ffef 0 fff0 9 fff9 8
    fffe 9 10000 0 10101 8 10102 0 10140 8 1018d 0 10190 8 1019d 0 101a0 8 101a1 0 101fd a 101fe
    0 102e0 a 102e1 4 102fc 0 10376 a 1037b 0 10800 1 1091f 8 10920 1 10a01 a 10a04 1 10a05 a
    10a07 1 10a0c a 10a10 1 10a38 a 10a3b 1 10a3f a 10a40 1 10ae5 a 10ae7 1 10b39 8 10b40 1 10d00
    2 10d24 a 10d28 2 10d30 3 10d3a 2 10d40 1 10e60 3 10e7f 1 10eab a 10ead 1 10ec0 2 10efd a
    10f00 1 10f30 2 10f46 a 10f51 2 10f70 1 10f82 a 10f86 1 11000 0 11001 a 11002 0 11038 a 11047
    0 11052 8 11066 0 11070 a 11071 0 11073 a 11075 0 1107f a 11082 0 110b3 a 110b7 0 110b9 a
    110bb 0 110c2 a 110c3 0 11100 a 11103 0 11127 a 1112c 0 1112d a 11135 0 11173 a 11174 0 11180
    a 11182 0 111b6 a 111bf 0 111c9 a 111cd 0 111cf a 111d0 0 1122f a 11232 0 11234 a 11235 0
    11236 a 11238 0 1123e a 1123f 0 11241 a 11242 0 112df a 112e0 0 112e3 a 112eb 0 11300 a 11302
    0 1133b a 1133d 0 11340 a 11341 0 11366 a 1136d 0 11370 a 11375 0 11438 a 11440 0 11442 a
    11445 0 11446 a 11447 0 1145e a 1145f 0 114b3 a 114b9 0 114ba a 114bb 0 114bf a 114c1 0 114c2
    a 114c4 0 115b2 a 115b6 0 115bc a 115be 0 115bf a 115c1 0 115dc a 115de 0 11633 a 1163b 0
    1163d a 1163e 0 1163f a 11641 0 11660 8 1166d 0 116ab a 116ac 0 116ad a 116ae 0 116b0 a 116b6
    0 116b7 a 116b8 0 1171d a 11720 0 11722 a 11726 0 11727 a 1172c 0 1182f a 11838 0 11839 a
    1183b 0 1193b a 1193d 0 1193e a 1193f 0 11943 a 11944 0 119d4 a 119d8 0 119da a 119dc 0 119e0
    a 119e1 0 11a01 a 11a07 0 11a09 a 11a0b 0 11a33 a 11a39 0 11a3b a 11a3f 0 11a47 a 11a48 0
    11a51 a 11a57 0 11a59 a 11a5c 0 11a8a a 11a97 0 11a98 a 11a9a 0 11c30 a 11c37 0 11c38 a 11c3e
    0 11c92 a 11ca8 0 11caa a 11cb1 0 11cb2 a 11cb4 0 11cb5 a 11cb7 0 11d31 a 11d37 0 11d3a a
    11d3b 0 11d3c a 11d3e 0 11d3f a 11d46 0 11d47 a 11d48 0 11d90 a 11d92 0 11d95 a 11d96 0 11d97
    a 11d98 0 11ef3 a 11ef5 0 11f00 a 11f02 0 11f36 a 11f3b 0 11f40 a 11f41 0 11f42 a 11f43 0
    11fd5 8 11fdd 7 11fe1 8 11ff2 0 13440 a 13441 0 13447 a 13456 0 16af0 a 16af5 0 16b30 a 16b37
    0 16f4f a 16f50 0 16f8f a 16f93 0 16fe2 8 16fe3 0 16fe4 a 16fe5 0 1bc9d a 1bc9f 0 1bca0 9
    1bca4 0 1cf00 a 1cf2e 0 1cf30 a 1cf47 0 1d167 a 1d16a 0 1d173 9 1d17b a 1d183 0 1d185 a 1d18c
    0 1d1aa a 1d1ae 0 1d1e9 8 1d1eb 0 1d200 8 1d242 a 1d245 8 1d246 0 1d300 8 1d357 0 1d6db 8
    1d6dc 0 1d715 8 1d716 0 1d74f 8 1d750 0 1d789 8 1d78a 0 1d7c3 8 1d7c4 0 1d7ce 4 1d800 0 1da00
    a 1da37 0 1da3b a 1da6d 0 1da75 a 1da76 0 1da84 a 1da85 0 1da9b a 1daa0 0 1daa1 a 1dab0 0
    1e000 a 1e007 0 1e008 a 1e019 0 1e01b a 1e022 0 1e023 a 1e025 0 1e026 a 1e02b 0 1e08f a 1e090
    0 1e130 a 1e137 0 1e2ae a 1e2af 0 1e2ec a 1e2f0 0 1e2ff 7 1e300 0 1e4ec a 1e4f0 0 1e800 1
    1e8d0 a 1e8d7 1 1e944 a 1e94b 1 1ec70 2 1ecc0 1 1ed00 2 1ed50 1 1ee00 2 1eef0 8 1eef2 2 1ef00
    1 1f000 8 1f02c 0 1f030 8 1f094 0 1f0a0 8 1f0af 0 1f0b1 8 1f0c0 0 1f0c1 8 1f0d0 0 1f0d1 8
    1f0f6 0 1f100 4 1f10b 8 1f110 0 1f12f 8 1f130 0 1f16a 8 1f170 0 1f1ad 8 1f1ae 0 1f260 8 1f266
    0 1f300 8 1f6d8 0 1f6dc 8 1f6ed 0 1f6f0 8 1f6fd 0 1f700 8 1f777 0 1f77b 8 1f7da 0 1f7e0 8
    1f7ec 0 1f7f0 8 1f7f1 0 1f800 8 1f80c 0 1f810 8 1f848 0 1f850 8 1f85a 0 1f860 8 1f888 0 1f890
    8 1f8ae 0 1f8b0 8 1f8b2 0 1f900 8 1fa54 0 1fa60 8 1fa6e 0 1fa70 8 1fa7d 0 1fa80 8 1fa89 0
    1fa90 8 1fabe 0 1fabf 8 1fac6 0 1face 8 1fadc 0 1fae0 8 1fae9 0 1faf0 8 1faf9 0 1fb00 8 1fb93
    0 1fb94 8 1fbcb 0 1fbf0 4 1fbfa 0 1fffe 9 20000 0 2fffe 9 30000 0 3fffe 9 40000 0 4fffe 9
    50000 0 5fffe 9 60000 0 6fffe 9 70000 0 7fffe 9 80000 0 8fffe 9 90000 0 9fffe 9 a0000 0 afffe
    9 b0000 0 bfffe 9 c0000 0 cfffe 9 d0000 0 dfffe 9 e0100 a e01f0 9 e1000 0 efffe 9 f0000 0
    ffffe 9 100000 0 10fffe 9 110000 0"

/-- The joining type from each point on: none, both sides, left, right, transparent. -/
def joinings : CodeMap := .ofText "
    0 0 ad 4 ae 0 300 4 370 0 483 4 48a 0 591 4 5be 0 5bf 4 5c0 0 5c1 4 5c3 0 5c4 4 5c6 0 5c7 4
    5c8 0 610 4 61b 0 61c 4 61d 0 620 1 621 0 622 3 626 1 627 3 628 1 629 3 62a 1 62f 3 633 1 640
    0 641 1 648 3 649 1 64b 4 660 0 66e 1 670 4 671 3 674 0 675 3 678 1 688 3 69a 1 6c0 3 6c1 1
    6c3 3 6cc 1 6cd 3 6ce 1 6cf 3 6d0 1 6d2 3 6d4 0 6d5 3 6d6 4 6dd 0 6df 4 6e5 0 6e7 4 6e9 0 6ea
    4 6ee 3 6f0 0 6fa 1 6fd 0 6ff 1 700 0 70f 4 710 3 711 4 712 1 715 3 71a 1 71e 3 71f 1 728 3
    729 1 72a 3 72b 1 72c 3 72d 1 72f 3 730 4 74b 0 74d 3 74e 1 759 3 75c 1 76b 3 76d 1 771 3 772
    1 773 3 775 1 778 3 77a 1 780 0 7a6 4 7b1 0 7ca 1 7eb 4 7f4 0 7fd 4 7fe 0 816 4 81a 0 81b 4
    824 0 825 4 828 0 829 4 82e 0 840 3 841 1 846 3 848 1 849 3 84a 1 854 3 855 1 856 3 859 4 85c
    0 860 1 861 0 862 1 866 0 867 3 868 1 869 3 86b 0 870 3 883 0 886 1 887 0 889 1 88e 3 88f 0
    898 4 8a0 1 8aa 3 8ad 0 8ae 3 8af 1 8b1 3 8b3 1 8b9 3 8ba 1 8c9 0 8ca 4 8e2 0 8e3 4 903 0 93a
    4 93b 0 93c 4 93d 0 941 4 949 0 94d 4 94e 0 951 4 958 0 962 4 964 0 981 4 982 0 9bc 4 9bd 0
    9c1 4 9c5 0 9cd 4 9ce 0 9e2 4 9e4 0 9fe 4 9ff 0 a01 4 a03 0 a3c 4 a3d 0 a41 4 a43 0 a47 4 a49
    0 a4b 4 a4e 0 a51 4 a52 0 a70 4 a72 0 a75 4 a76 0 a81 4 a83 0 abc 4 abd 0 ac1 4 ac6 0 ac7 4
    ac9 0 acd 4 ace 0 ae2 4 ae4 0 afa 4 b00 0 b01 4 b02 0 b3c 4 b3d 0 b3f 4 b40 0 b41 4 b45 0 b4d
    4 b4e 0 b55 4 b57 0 b62 4 b64 0 b82 4 b83 0 bc0 4 bc1 0 bcd 4 bce 0 c00 4 c01 0 c04 4 c05 0
    c3c 4 c3d 0 c3e 4 c41 0 c46 4 c49 0 c4a 4 c4e 0 c55 4 c57 0 c62 4 c64 0 c81 4 c82 0 cbc 4 cbd
    0 cbf 4 cc0 0 cc6 4 cc7 0 ccc 4 cce 0 ce2 4 ce4 0 d00 4 d02 0 d3b 4 d3d 0 d41 4 d45 0 d4d 4
    d4e 0 d62 4 d64 0 d81 4 d82 0 dca 4 dcb 0 dd2 4 dd5 0 dd6 4 dd7 0 e31 4 e32 0 e34 4 e3b 0 e47
    4 e4f 0 eb1 4 eb2 0 eb4 4 ebd 0 ec8 4 ecf 0 f18 4 f1a 0 f35 4 f36 0 f37 4 f38 0 f39 4 f3a 0
    f71 4 f7f 0 f80 4 f85 0 f86 4 f88 0 f8d 4 f98 0 f99 4 fbd 0 fc6 4 fc7 0 102d 4 1031 0 1032 4
    1038 0 1039 4 103b 0 103d 4 103f 0 1058 4 105a 0 105e 4 1061 0 1071 4 1075 0 1082 4 1083 0
    1085 4 1087 0 108d 4 108e 0 109d 4 109e 0 135d 4 1360 0 1712 4 1715 0 1732 4 1734 0 1752 4
    1754 0 1772 4 1774 0 17b4 4 17b6 0 17b7 4 17be 0 17c6 4 17c7 0 17c9 4 17d4 0 17dd 4 17de 0
    1807 1 1808 0 180b 4 180e 0 180f 4 1810 0 1820 1 1879 0 1885 4 1887 1 18a9 4 18aa 1 18ab 0
    1920 4 1923 0 1927 4 1929 0 1932 4 1933 0 1939 4 193c 0 1a17 4 1a19 0 1a1b 4 1a1c 0 1a56 4
    1a57 0 1a58 4 1a5f 0 1a60 4 1a61 0 1a62 4 1a63 0 1a65 4 1a6d 0 1a73 4 1a7d 0 1a7f 4 1a80 0
    1ab0 4 1acf 0 1b00 4 1b04 0 1b34 4 1b35 0 1b36 4 1b3b 0 1b3c 4 1b3d 0 1b42 4 1b43 0 1b6b 4
    1b74 0 1b80 4 1b82 0 1ba2 4 1ba6 0 1ba8 4 1baa 0 1bab 4 1bae 0 1be6 4 1be7 0 1be8 4 1bea 0
    1bed 4 1bee 0 1bef 4 1bf2 0 1c2c 4 1c34 0 1c36 4 1c38 0 1cd0 4 1cd3 0 1cd4 4 1ce1 0 1ce2 4
    1ce9 0 1ced 4 1cee 0 1cf4 4 1cf5 0 1cf8 4 1cfa 0 1dc0 4 1e00 0 200b 4 200c 0 200e 4 2010 0
    202a 4 202f 0 2060 4 2065 0 206a 4 2070 0 20d0 4 20f1 0 2cef 4 2cf2 0 2d7f 4 2d80 0 2de0 4
    2e00 0 302a 4 302e 0 3099 4 309b 0 a66f 4 a673 0 a674 4 a67e 0 a69e 4 a6a0 0 a6f0 4 a6f2 0
    a802 4 a803 0 a806 4 a807 0 a80b 4 a80c 0 a825 4 a827 0 a82c 4 a82d 0 a840 1 a872 2 a873 0
    a8c4 4 a8c6 0 a8e0 4 a8f2 0 a8ff 4 a900 0 a926 4 a92e 0 a947 4 a952 0 a980 4 a983 0 a9b3 4
    a9b4 0 a9b6 4 a9ba 0 a9bc 4 a9be 0 a9e5 4 a9e6 0 aa29 4 aa2f 0 aa31 4 aa33 0 aa35 4 aa37 0
    aa43 4 aa44 0 aa4c 4 aa4d 0 aa7c 4 aa7d 0 aab0 4 aab1 0 aab2 4 aab5 0 aab7 4 aab9 0 aabe 4
    aac0 0 aac1 4 aac2 0 aaec 4 aaee 0 aaf6 4 aaf7 0 abe5 4 abe6 0 abe8 4 abe9 0 abed 4 abee 0
    fb1e 4 fb1f 0 fe00 4 fe10 0 fe20 4 fe30 0 feff 4 ff00 0 fff9 4 fffc 0 101fd 4 101fe 0 102e0 4
    102e1 0 10376 4 1037b 0 10a01 4 10a04 0 10a05 4 10a07 0 10a0c 4 10a10 0 10a38 4 10a3b 0 10a3f
    4 10a40 0 10ac0 1 10ac5 3 10ac6 0 10ac7 3 10ac8 0 10ac9 3 10acb 0 10acd 2 10ace 3 10ad3 1
    10ad7 2 10ad8 1 10add 3 10ade 1 10ae1 3 10ae2 0 10ae4 3 10ae5 4 10ae7 0 10aeb 1 10aef 3 10af0
    0 10b80 1 10b81 3 10b82 1 10b83 3 10b86 1 10b89 3 10b8a 1 10b8c 3 10b8d 1 10b8e 3 10b90 1
    10b91 3 10b92 0 10ba9 3 10bad 1 10baf 0 10d00 2 10d01 1 10d22 3 10d23 1 10d24 4 10d28 0 10eab
    4 10ead 0 10efd 4 10f00 0 10f30 1 10f33 3 10f34 1 10f45 0 10f46 4 10f51 1 10f54 3 10f55 0
    10f70 1 10f74 3 10f76 1 10f82 4 10f86 0 10fb0 1 10fb1 0 10fb2 1 10fb4 3 10fb7 0 10fb8 1 10fb9
    3 10fbb 1 10fbd 3 10fbe 1 10fc0 0 10fc1 1 10fc2 3 10fc4 1 10fc5 0 10fc9 3 10fca 1 10fcb 2
    10fcc 0 11001 4 11002 0 11038 4 11047 0 11070 4 11071 0 11073 4 11075 0 1107f 4 11082 0 110b3
    4 110b7 0 110b9 4 110bb 0 110c2 4 110c3 0 11100 4 11103 0 11127 4 1112c 0 1112d 4 11135 0
    11173 4 11174 0 11180 4 11182 0 111b6 4 111bf 0 111c9 4 111cd 0 111cf 4 111d0 0 1122f 4 11232
    0 11234 4 11235 0 11236 4 11238 0 1123e 4 1123f 0 11241 4 11242 0 112df 4 112e0 0 112e3 4
    112eb 0 11300 4 11302 0 1133b 4 1133d 0 11340 4 11341 0 11366 4 1136d 0 11370 4 11375 0 11438
    4 11440 0 11442 4 11445 0 11446 4 11447 0 1145e 4 1145f 0 114b3 4 114b9 0 114ba 4 114bb 0
    114bf 4 114c1 0 114c2 4 114c4 0 115b2 4 115b6 0 115bc 4 115be 0 115bf 4 115c1 0 115dc 4 115de
    0 11633 4 1163b 0 1163d 4 1163e 0 1163f 4 11641 0 116ab 4 116ac 0 116ad 4 116ae 0 116b0 4
    116b6 0 116b7 4 116b8 0 1171d 4 11720 0 11722 4 11726 0 11727 4 1172c 0 1182f 4 11838 0 11839
    4 1183b 0 1193b 4 1193d 0 1193e 4 1193f 0 11943 4 11944 0 119d4 4 119d8 0 119da 4 119dc 0
    119e0 4 119e1 0 11a01 4 11a0b 0 11a33 4 11a39 0 11a3b 4 11a3f 0 11a47 4 11a48 0 11a51 4 11a57
    0 11a59 4 11a5c 0 11a8a 4 11a97 0 11a98 4 11a9a 0 11c30 4 11c37 0 11c38 4 11c3e 0 11c3f 4
    11c40 0 11c92 4 11ca8 0 11caa 4 11cb1 0 11cb2 4 11cb4 0 11cb5 4 11cb7 0 11d31 4 11d37 0 11d3a
    4 11d3b 0 11d3c 4 11d3e 0 11d3f 4 11d46 0 11d47 4 11d48 0 11d90 4 11d92 0 11d95 4 11d96 0
    11d97 4 11d98 0 11ef3 4 11ef5 0 11f00 4 11f02 0 11f36 4 11f3b 0 11f40 4 11f41 0 11f42 4 11f43
    0 13430 4 13441 0 13447 4 13456 0 16af0 4 16af5 0 16b30 4 16b37 0 16f4f 4 16f50 0 16f8f 4
    16f93 0 16fe4 4 16fe5 0 1bc9d 4 1bc9f 0 1bca0 4 1bca4 0 1cf00 4 1cf2e 0 1cf30 4 1cf47 0 1d167
    4 1d16a 0 1d173 4 1d183 0 1d185 4 1d18c 0 1d1aa 4 1d1ae 0 1d242 4 1d245 0 1da00 4 1da37 0
    1da3b 4 1da6d 0 1da75 4 1da76 0 1da84 4 1da85 0 1da9b 4 1daa0 0 1daa1 4 1dab0 0 1e000 4 1e007
    0 1e008 4 1e019 0 1e01b 4 1e022 0 1e023 4 1e025 0 1e026 4 1e02b 0 1e08f 4 1e090 0 1e130 4
    1e137 0 1e2ae 4 1e2af 0 1e2ec 4 1e2f0 0 1e4ec 4 1e4f0 0 1e8d0 4 1e8d7 0 1e900 1 1e944 4 1e94c
    0 e0001 4 e0002 0 e0020 4 e0080 0 e0100 4 e01f0 0"

/-- Marks. -/
def marks : CodeSet := .ofText "
    300 370 483 48a 591 5be 5bf 5c0 5c1 5c3 5c4 5c6 5c7 5c8 610 61b 64b 660 670 671 6d6 6dd 6df
    6e5 6e7 6e9 6ea 6ee 711 712 730 74b 7a6 7b1 7eb 7f4 7fd 7fe 816 81a 81b 824 825 828 829 82e
    859 85c 897 8a0 8ca 8e2 8e3 904 93a 93d 93e 950 951 958 962 964 981 984 9bc 9bd 9be 9c5 9c7
    9c9 9cb 9ce 9d7 9d8 9e2 9e4 9fe 9ff a01 a04 a3c a3d a3e a43 a47 a49 a4b a4e a51 a52 a70 a72
    a75 a76 a81 a84 abc abd abe ac6 ac7 aca acb ace ae2 ae4 afa b00 b01 b04 b3c b3d b3e b45 b47
    b49 b4b b4e b55 b58 b62 b64 b82 b83 bbe bc3 bc6 bc9 bca bce bd7 bd8 c00 c05 c3c c3d c3e c45
    c46 c49 c4a c4e c55 c57 c62 c64 c81 c84 cbc cbd cbe cc5 cc6 cc9 cca cce cd5 cd7 ce2 ce4 cf3
    cf4 d00 d04 d3b d3d d3e d45 d46 d49 d4a d4e d57 d58 d62 d64 d81 d84 dca dcb dcf dd5 dd6 dd7
    dd8 de0 df2 df4 e31 e32 e34 e3b e47 e4f eb1 eb2 eb4 ebd ec8 ecf f18 f1a f35 f36 f37 f38 f39
    f3a f3e f40 f71 f85 f86 f88 f8d f98 f99 fbd fc6 fc7 102b 103f 1056 105a 105e 1061 1062 1065
    1067 106e 1071 1075 1082 108e 108f 1090 109a 109e 135d 1360 1712 1716 1732 1735 1752 1754
    1772 1774 17b4 17d4 17dd 17de 180b 180e 180f 1810 1885 1887 18a9 18aa 1920 192c 1930 193c
    1a17 1a1c 1a55 1a5f 1a60 1a7d 1a7f 1a80 1ab0 1ade 1ae0 1aec 1b00 1b05 1b34 1b45 1b6b 1b74
    1b80 1b83 1ba1 1bae 1be6 1bf4 1c24 1c38 1cd0 1cd3 1cd4 1ce9 1ced 1cee 1cf4 1cf5 1cf7 1cfa
    1dc0 1e00 20d0 20f1 2cef 2cf2 2d7f 2d80 2de0 2e00 302a 3030 3099 309b a66f a673 a674 a67e
    a69e a6a0 a6f0 a6f2 a802 a803 a806 a807 a80b a80c a823 a828 a82c a82d a880 a882 a8b4 a8c6
    a8e0 a8f2 a8ff a900 a926 a92e a947 a954 a980 a984 a9b3 a9c1 a9e5 a9e6 aa29 aa37 aa43 aa44
    aa4c aa4e aa7b aa7e aab0 aab1 aab2 aab5 aab7 aab9 aabe aac0 aac1 aac2 aaeb aaf0 aaf5 aaf7
    abe3 abeb abec abee fb1e fb1f fe00 fe10 fe20 fe30 101fd 101fe 102e0 102e1 10376 1037b 10a01
    10a04 10a05 10a07 10a0c 10a10 10a38 10a3b 10a3f 10a40 10ae5 10ae7 10d24 10d28 10d69 10d6e
    10eab 10ead 10efa 10f00 10f46 10f51 10f82 10f86 11000 11003 11038 11047 11070 11071 11073
    11075 1107f 11083 110b0 110bb 110c2 110c3 11100 11103 11127 11135 11145 11147 11173 11174
    11180 11183 111b3 111c1 111c9 111cd 111ce 111d0 1122c 11238 1123e 1123f 11241 11242 112df
    112eb 11300 11304 1133b 1133d 1133e 11345 11347 11349 1134b 1134e 11357 11358 11362 11364
    11366 1136d 11370 11375 113b8 113c1 113c2 113c3 113c5 113c6 113c7 113cb 113cc 113d1 113d2
    113d3 113e1 113e3 11435 11447 1145e 1145f 114b0 114c4 115af 115b6 115b8 115c1 115dc 115de
    11630 11641 116ab 116b8 1171d 1172c 1182c 1183b 11930 11936 11937 11939 1193b 1193f 11940
    11941 11942 11944 119d1 119d8 119da 119e1 119e4 119e5 11a01 11a0b 11a33 11a3a 11a3b 11a3f
    11a47 11a48 11a51 11a5c 11a8a 11a9a 11b60 11b68 11c2f 11c37 11c38 11c40 11c92 11ca8 11ca9
    11cb7 11d31 11d37 11d3a 11d3b 11d3c 11d3e 11d3f 11d46 11d47 11d48 11d8a 11d8f 11d90 11d92
    11d93 11d98 11ef3 11ef7 11f00 11f02 11f03 11f04 11f34 11f3b 11f3e 11f43 11f5a 11f5b 13440
    13441 13447 13456 1611e 16130 16af0 16af5 16b30 16b37 16f4f 16f50 16f51 16f88 16f8f 16f93
    16fe4 16fe5 16ff0 16ff2 1bc9d 1bc9f 1cf00 1cf2e 1cf30 1cf47 1d165 1d16a 1d16d 1d173 1d17b
    1d183 1d185 1d18c 1d1aa 1d1ae 1d242 1d245 1da00 1da37 1da3b 1da6d 1da75 1da76 1da84 1da85
    1da9b 1daa0 1daa1 1dab0 1e000 1e007 1e008 1e019 1e01b 1e022 1e023 1e025 1e026 1e02b 1e08f
    1e090 1e130 1e137 1e2ae 1e2af 1e2ec 1e2f0 1e4ec 1e4f0 1e5ee 1e5f0 1e6e3 1e6e4 1e6e6 1e6e7
    1e6ee 1e6f0 1e6f5 1e6f6 1e8d0 1e8d7 1e944 1e94b e0100 e01f0"

end PagePrep.Url.Domain
