import PagePrep.Text.CodeTable

/-!
# Canonical equivalents

The canonical decompositions of characters other than Hangul syllables, the pairs that compose
again, and the classes by which combining characters are ordered.
-/

set_option autoImplicit false

namespace PagePrep.Text

/-- A character and its full decomposition. -/
def decompositions : CodeRows := .ofText "
    c0 41 300; c1 41 301; c2 41 302; c3 41 303; c4 41 308; c5 41 30a; c7 43 327; c8 45 300;
    c9 45 301; ca 45 302; cb 45 308; cc 49 300; cd 49 301; ce 49 302; cf 49 308; d1 4e 303;
    d2 4f 300; d3 4f 301; d4 4f 302; d5 4f 303; d6 4f 308; d9 55 300; da 55 301; db 55 302;
    dc 55 308; dd 59 301; e0 61 300; e1 61 301; e2 61 302; e3 61 303; e4 61 308; e5 61 30a;
    e7 63 327; e8 65 300; e9 65 301; ea 65 302; eb 65 308; ec 69 300; ed 69 301; ee 69 302;
    ef 69 308; f1 6e 303; f2 6f 300; f3 6f 301; f4 6f 302; f5 6f 303; f6 6f 308; f9 75 300;
    fa 75 301; fb 75 302; fc 75 308; fd 79 301; ff 79 308; 100 41 304; 101 61 304; 102 41 306;
    103 61 306; 104 41 328; 105 61 328; 106 43 301; 107 63 301; 108 43 302; 109 63 302;
    10a 43 307; 10b 63 307; 10c 43 30c; 10d 63 30c; 10e 44 30c; 10f 64 30c; 112 45 304;
    113 65 304; 114 45 306; 115 65 306; 116 45 307; 117 65 307; 118 45 328; 119 65 328;
    11a 45 30c; 11b 65 30c; 11c 47 302; 11d 67 302; 11e 47 306; 11f 67 306; 120 47 307;
    121 67 307; 122 47 327; 123 67 327; 124 48 302; 125 68 302; 128 49 303; 129 69 303;
    12a 49 304; 12b 69 304; 12c 49 306; 12d 69 306; 12e 49 328; 12f 69 328; 130 49 307;
    134 4a 302; 135 6a 302; 136 4b 327; 137 6b 327; 139 4c 301; 13a 6c 301; 13b 4c 327;
    13c 6c 327; 13d 4c 30c; 13e 6c 30c; 143 4e 301; 144 6e 301; 145 4e 327; 146 6e 327;
    147 4e 30c; 148 6e 30c; 14c 4f 304; 14d 6f 304; 14e 4f 306; 14f 6f 306; 150 4f 30b;
    151 6f 30b; 154 52 301; 155 72 301; 156 52 327; 157 72 327; 158 52 30c; 159 72 30c;
    15a 53 301; 15b 73 301; 15c 53 302; 15d 73 302; 15e 53 327; 15f 73 327; 160 53 30c;
    161 73 30c; 162 54 327; 163 74 327; 164 54 30c; 165 74 30c; 168 55 303; 169 75 303;
    16a 55 304; 16b 75 304; 16c 55 306; 16d 75 306; 16e 55 30a; 16f 75 30a; 170 55 30b;
    171 75 30b; 172 55 328; 173 75 328; 174 57 302; 175 77 302; 176 59 302; 177 79 302;
    178 59 308; 179 5a 301; 17a 7a 301; 17b 5a 307; 17c 7a 307; 17d 5a 30c; 17e 7a 30c;
    1a0 4f 31b; 1a1 6f 31b; 1af 55 31b; 1b0 75 31b; 1cd 41 30c; 1ce 61 30c; 1cf 49 30c;
    1d0 69 30c; 1d1 4f 30c; 1d2 6f 30c; 1d3 55 30c; 1d4 75 30c; 1d5 55 308 304; 1d6 75 308 304;
    1d7 55 308 301; 1d8 75 308 301; 1d9 55 308 30c; 1da 75 308 30c; 1db 55 308 300;
    1dc 75 308 300; 1de 41 308 304; 1df 61 308 304; 1e0 41 307 304; 1e1 61 307 304; 1e2 c6 304;
    1e3 e6 304; 1e6 47 30c; 1e7 67 30c; 1e8 4b 30c; 1e9 6b 30c; 1ea 4f 328; 1eb 6f 328;
    1ec 4f 328 304; 1ed 6f 328 304; 1ee 1b7 30c; 1ef 292 30c; 1f0 6a 30c; 1f4 47 301; 1f5 67 301;
    1f8 4e 300; 1f9 6e 300; 1fa 41 30a 301; 1fb 61 30a 301; 1fc c6 301; 1fd e6 301; 1fe d8 301;
    1ff f8 301; 200 41 30f; 201 61 30f; 202 41 311; 203 61 311; 204 45 30f; 205 65 30f;
    206 45 311; 207 65 311; 208 49 30f; 209 69 30f; 20a 49 311; 20b 69 311; 20c 4f 30f;
    20d 6f 30f; 20e 4f 311; 20f 6f 311; 210 52 30f; 211 72 30f; 212 52 311; 213 72 311;
    214 55 30f; 215 75 30f; 216 55 311; 217 75 311; 218 53 326; 219 73 326; 21a 54 326;
    21b 74 326; 21e 48 30c; 21f 68 30c; 226 41 307; 227 61 307; 228 45 327; 229 65 327;
    22a 4f 308 304; 22b 6f 308 304; 22c 4f 303 304; 22d 6f 303 304; 22e 4f 307; 22f 6f 307;
    230 4f 307 304; 231 6f 307 304; 232 59 304; 233 79 304; 340 300; 341 301; 343 313;
    344 308 301; 374 2b9; 37e 3b; 385 a8 301; 386 391 301; 387 b7; 388 395 301; 389 397 301;
    38a 399 301; 38c 39f 301; 38e 3a5 301; 38f 3a9 301; 390 3b9 308 301; 3aa 399 308; 3ab 3a5 308;
    3ac 3b1 301; 3ad 3b5 301; 3ae 3b7 301; 3af 3b9 301; 3b0 3c5 308 301; 3ca 3b9 308; 3cb 3c5 308;
    3cc 3bf 301; 3cd 3c5 301; 3ce 3c9 301; 3d3 3d2 301; 3d4 3d2 308; 400 415 300; 401 415 308;
    403 413 301; 407 406 308; 40c 41a 301; 40d 418 300; 40e 423 306; 419 418 306; 439 438 306;
    450 435 300; 451 435 308; 453 433 301; 457 456 308; 45c 43a 301; 45d 438 300; 45e 443 306;
    476 474 30f; 477 475 30f; 4c1 416 306; 4c2 436 306; 4d0 410 306; 4d1 430 306; 4d2 410 308;
    4d3 430 308; 4d6 415 306; 4d7 435 306; 4da 4d8 308; 4db 4d9 308; 4dc 416 308; 4dd 436 308;
    4de 417 308; 4df 437 308; 4e2 418 304; 4e3 438 304; 4e4 418 308; 4e5 438 308; 4e6 41e 308;
    4e7 43e 308; 4ea 4e8 308; 4eb 4e9 308; 4ec 42d 308; 4ed 44d 308; 4ee 423 304; 4ef 443 304;
    4f0 423 308; 4f1 443 308; 4f2 423 30b; 4f3 443 30b; 4f4 427 308; 4f5 447 308; 4f8 42b 308;
    4f9 44b 308; 622 627 653; 623 627 654; 624 648 654; 625 627 655; 626 64a 654; 6c0 6d5 654;
    6c2 6c1 654; 6d3 6d2 654; 929 928 93c; 931 930 93c; 934 933 93c; 958 915 93c; 959 916 93c;
    95a 917 93c; 95b 91c 93c; 95c 921 93c; 95d 922 93c; 95e 92b 93c; 95f 92f 93c; 9cb 9c7 9be;
    9cc 9c7 9d7; 9dc 9a1 9bc; 9dd 9a2 9bc; 9df 9af 9bc; a33 a32 a3c; a36 a38 a3c; a59 a16 a3c;
    a5a a17 a3c; a5b a1c a3c; a5e a2b a3c; b48 b47 b56; b4b b47 b3e; b4c b47 b57; b5c b21 b3c;
    b5d b22 b3c; b94 b92 bd7; bca bc6 bbe; bcb bc7 bbe; bcc bc6 bd7; c48 c46 c56; cc0 cbf cd5;
    cc7 cc6 cd5; cc8 cc6 cd6; cca cc6 cc2; ccb cc6 cc2 cd5; d4a d46 d3e; d4b d47 d3e; d4c d46 d57;
    dda dd9 dca; ddc dd9 dcf; ddd dd9 dcf dca; dde dd9 ddf; f43 f42 fb7; f4d f4c fb7; f52 f51 fb7;
    f57 f56 fb7; f5c f5b fb7; f69 f40 fb5; f73 f71 f72; f75 f71 f74; f76 fb2 f80; f78 fb3 f80;
    f81 f71 f80; f93 f92 fb7; f9d f9c fb7; fa2 fa1 fb7; fa7 fa6 fb7; fac fab fb7; fb9 f90 fb5;
    1026 1025 102e; 1b06 1b05 1b35; 1b08 1b07 1b35; 1b0a 1b09 1b35; 1b0c 1b0b 1b35;
    1b0e 1b0d 1b35; 1b12 1b11 1b35; 1b3b 1b3a 1b35; 1b3d 1b3c 1b35; 1b40 1b3e 1b35;
    1b41 1b3f 1b35; 1b43 1b42 1b35; 1e00 41 325; 1e01 61 325; 1e02 42 307; 1e03 62 307;
    1e04 42 323; 1e05 62 323; 1e06 42 331; 1e07 62 331; 1e08 43 327 301; 1e09 63 327 301;
    1e0a 44 307; 1e0b 64 307; 1e0c 44 323; 1e0d 64 323; 1e0e 44 331; 1e0f 64 331; 1e10 44 327;
    1e11 64 327; 1e12 44 32d; 1e13 64 32d; 1e14 45 304 300; 1e15 65 304 300; 1e16 45 304 301;
    1e17 65 304 301; 1e18 45 32d; 1e19 65 32d; 1e1a 45 330; 1e1b 65 330; 1e1c 45 327 306;
    1e1d 65 327 306; 1e1e 46 307; 1e1f 66 307; 1e20 47 304; 1e21 67 304; 1e22 48 307; 1e23 68 307;
    1e24 48 323; 1e25 68 323; 1e26 48 308; 1e27 68 308; 1e28 48 327; 1e29 68 327; 1e2a 48 32e;
    1e2b 68 32e; 1e2c 49 330; 1e2d 69 330; 1e2e 49 308 301; 1e2f 69 308 301; 1e30 4b 301;
    1e31 6b 301; 1e32 4b 323; 1e33 6b 323; 1e34 4b 331; 1e35 6b 331; 1e36 4c 323; 1e37 6c 323;
    1e38 4c 323 304; 1e39 6c 323 304; 1e3a 4c 331; 1e3b 6c 331; 1e3c 4c 32d; 1e3d 6c 32d;
    1e3e 4d 301; 1e3f 6d 301; 1e40 4d 307; 1e41 6d 307; 1e42 4d 323; 1e43 6d 323; 1e44 4e 307;
    1e45 6e 307; 1e46 4e 323; 1e47 6e 323; 1e48 4e 331; 1e49 6e 331; 1e4a 4e 32d; 1e4b 6e 32d;
    1e4c 4f 303 301; 1e4d 6f 303 301; 1e4e 4f 303 308; 1e4f 6f 303 308; 1e50 4f 304 300;
    1e51 6f 304 300; 1e52 4f 304 301; 1e53 6f 304 301; 1e54 50 301; 1e55 70 301; 1e56 50 307;
    1e57 70 307; 1e58 52 307; 1e59 72 307; 1e5a 52 323; 1e5b 72 323; 1e5c 52 323 304;
    1e5d 72 323 304; 1e5e 52 331; 1e5f 72 331; 1e60 53 307; 1e61 73 307; 1e62 53 323; 1e63 73 323;
    1e64 53 301 307; 1e65 73 301 307; 1e66 53 30c 307; 1e67 73 30c 307; 1e68 53 323 307;
    1e69 73 323 307; 1e6a 54 307; 1e6b 74 307; 1e6c 54 323; 1e6d 74 323; 1e6e 54 331; 1e6f 74 331;
    1e70 54 32d; 1e71 74 32d; 1e72 55 324; 1e73 75 324; 1e74 55 330; 1e75 75 330; 1e76 55 32d;
    1e77 75 32d; 1e78 55 303 301; 1e79 75 303 301; 1e7a 55 304 308; 1e7b 75 304 308; 1e7c 56 303;
    1e7d 76 303; 1e7e 56 323; 1e7f 76 323; 1e80 57 300; 1e81 77 300; 1e82 57 301; 1e83 77 301;
    1e84 57 308; 1e85 77 308; 1e86 57 307; 1e87 77 307; 1e88 57 323; 1e89 77 323; 1e8a 58 307;
    1e8b 78 307; 1e8c 58 308; 1e8d 78 308; 1e8e 59 307; 1e8f 79 307; 1e90 5a 302; 1e91 7a 302;
    1e92 5a 323; 1e93 7a 323; 1e94 5a 331; 1e95 7a 331; 1e96 68 331; 1e97 74 308; 1e98 77 30a;
    1e99 79 30a; 1e9b 17f 307; 1ea0 41 323; 1ea1 61 323; 1ea2 41 309; 1ea3 61 309;
    1ea4 41 302 301; 1ea5 61 302 301; 1ea6 41 302 300; 1ea7 61 302 300; 1ea8 41 302 309;
    1ea9 61 302 309; 1eaa 41 302 303; 1eab 61 302 303; 1eac 41 323 302; 1ead 61 323 302;
    1eae 41 306 301; 1eaf 61 306 301; 1eb0 41 306 300; 1eb1 61 306 300; 1eb2 41 306 309;
    1eb3 61 306 309; 1eb4 41 306 303; 1eb5 61 306 303; 1eb6 41 323 306; 1eb7 61 323 306;
    1eb8 45 323; 1eb9 65 323; 1eba 45 309; 1ebb 65 309; 1ebc 45 303; 1ebd 65 303; 1ebe 45 302 301;
    1ebf 65 302 301; 1ec0 45 302 300; 1ec1 65 302 300; 1ec2 45 302 309; 1ec3 65 302 309;
    1ec4 45 302 303; 1ec5 65 302 303; 1ec6 45 323 302; 1ec7 65 323 302; 1ec8 49 309; 1ec9 69 309;
    1eca 49 323; 1ecb 69 323; 1ecc 4f 323; 1ecd 6f 323; 1ece 4f 309; 1ecf 6f 309; 1ed0 4f 302 301;
    1ed1 6f 302 301; 1ed2 4f 302 300; 1ed3 6f 302 300; 1ed4 4f 302 309; 1ed5 6f 302 309;
    1ed6 4f 302 303; 1ed7 6f 302 303; 1ed8 4f 323 302; 1ed9 6f 323 302; 1eda 4f 31b 301;
    1edb 6f 31b 301; 1edc 4f 31b 300; 1edd 6f 31b 300; 1ede 4f 31b 309; 1edf 6f 31b 309;
    1ee0 4f 31b 303; 1ee1 6f 31b 303; 1ee2 4f 31b 323; 1ee3 6f 31b 323; 1ee4 55 323; 1ee5 75 323;
    1ee6 55 309; 1ee7 75 309; 1ee8 55 31b 301; 1ee9 75 31b 301; 1eea 55 31b 300; 1eeb 75 31b 300;
    1eec 55 31b 309; 1eed 75 31b 309; 1eee 55 31b 303; 1eef 75 31b 303; 1ef0 55 31b 323;
    1ef1 75 31b 323; 1ef2 59 300; 1ef3 79 300; 1ef4 59 323; 1ef5 79 323; 1ef6 59 309; 1ef7 79 309;
    1ef8 59 303; 1ef9 79 303; 1f00 3b1 313; 1f01 3b1 314; 1f02 3b1 313 300; 1f03 3b1 314 300;
    1f04 3b1 313 301; 1f05 3b1 314 301; 1f06 3b1 313 342; 1f07 3b1 314 342; 1f08 391 313;
    1f09 391 314; 1f0a 391 313 300; 1f0b 391 314 300; 1f0c 391 313 301; 1f0d 391 314 301;
    1f0e 391 313 342; 1f0f 391 314 342; 1f10 3b5 313; 1f11 3b5 314; 1f12 3b5 313 300;
    1f13 3b5 314 300; 1f14 3b5 313 301; 1f15 3b5 314 301; 1f18 395 313; 1f19 395 314;
    1f1a 395 313 300; 1f1b 395 314 300; 1f1c 395 313 301; 1f1d 395 314 301; 1f20 3b7 313;
    1f21 3b7 314; 1f22 3b7 313 300; 1f23 3b7 314 300; 1f24 3b7 313 301; 1f25 3b7 314 301;
    1f26 3b7 313 342; 1f27 3b7 314 342; 1f28 397 313; 1f29 397 314; 1f2a 397 313 300;
    1f2b 397 314 300; 1f2c 397 313 301; 1f2d 397 314 301; 1f2e 397 313 342; 1f2f 397 314 342;
    1f30 3b9 313; 1f31 3b9 314; 1f32 3b9 313 300; 1f33 3b9 314 300; 1f34 3b9 313 301;
    1f35 3b9 314 301; 1f36 3b9 313 342; 1f37 3b9 314 342; 1f38 399 313; 1f39 399 314;
    1f3a 399 313 300; 1f3b 399 314 300; 1f3c 399 313 301; 1f3d 399 314 301; 1f3e 399 313 342;
    1f3f 399 314 342; 1f40 3bf 313; 1f41 3bf 314; 1f42 3bf 313 300; 1f43 3bf 314 300;
    1f44 3bf 313 301; 1f45 3bf 314 301; 1f48 39f 313; 1f49 39f 314; 1f4a 39f 313 300;
    1f4b 39f 314 300; 1f4c 39f 313 301; 1f4d 39f 314 301; 1f50 3c5 313; 1f51 3c5 314;
    1f52 3c5 313 300; 1f53 3c5 314 300; 1f54 3c5 313 301; 1f55 3c5 314 301; 1f56 3c5 313 342;
    1f57 3c5 314 342; 1f59 3a5 314; 1f5b 3a5 314 300; 1f5d 3a5 314 301; 1f5f 3a5 314 342;
    1f60 3c9 313; 1f61 3c9 314; 1f62 3c9 313 300; 1f63 3c9 314 300; 1f64 3c9 313 301;
    1f65 3c9 314 301; 1f66 3c9 313 342; 1f67 3c9 314 342; 1f68 3a9 313; 1f69 3a9 314;
    1f6a 3a9 313 300; 1f6b 3a9 314 300; 1f6c 3a9 313 301; 1f6d 3a9 314 301; 1f6e 3a9 313 342;
    1f6f 3a9 314 342; 1f70 3b1 300; 1f71 3b1 301; 1f72 3b5 300; 1f73 3b5 301; 1f74 3b7 300;
    1f75 3b7 301; 1f76 3b9 300; 1f77 3b9 301; 1f78 3bf 300; 1f79 3bf 301; 1f7a 3c5 300;
    1f7b 3c5 301; 1f7c 3c9 300; 1f7d 3c9 301; 1f80 3b1 313 345; 1f81 3b1 314 345;
    1f82 3b1 313 300 345; 1f83 3b1 314 300 345; 1f84 3b1 313 301 345; 1f85 3b1 314 301 345;
    1f86 3b1 313 342 345; 1f87 3b1 314 342 345; 1f88 391 313 345; 1f89 391 314 345;
    1f8a 391 313 300 345; 1f8b 391 314 300 345; 1f8c 391 313 301 345; 1f8d 391 314 301 345;
    1f8e 391 313 342 345; 1f8f 391 314 342 345; 1f90 3b7 313 345; 1f91 3b7 314 345;
    1f92 3b7 313 300 345; 1f93 3b7 314 300 345; 1f94 3b7 313 301 345; 1f95 3b7 314 301 345;
    1f96 3b7 313 342 345; 1f97 3b7 314 342 345; 1f98 397 313 345; 1f99 397 314 345;
    1f9a 397 313 300 345; 1f9b 397 314 300 345; 1f9c 397 313 301 345; 1f9d 397 314 301 345;
    1f9e 397 313 342 345; 1f9f 397 314 342 345; 1fa0 3c9 313 345; 1fa1 3c9 314 345;
    1fa2 3c9 313 300 345; 1fa3 3c9 314 300 345; 1fa4 3c9 313 301 345; 1fa5 3c9 314 301 345;
    1fa6 3c9 313 342 345; 1fa7 3c9 314 342 345; 1fa8 3a9 313 345; 1fa9 3a9 314 345;
    1faa 3a9 313 300 345; 1fab 3a9 314 300 345; 1fac 3a9 313 301 345; 1fad 3a9 314 301 345;
    1fae 3a9 313 342 345; 1faf 3a9 314 342 345; 1fb0 3b1 306; 1fb1 3b1 304; 1fb2 3b1 300 345;
    1fb3 3b1 345; 1fb4 3b1 301 345; 1fb6 3b1 342; 1fb7 3b1 342 345; 1fb8 391 306; 1fb9 391 304;
    1fba 391 300; 1fbb 391 301; 1fbc 391 345; 1fbe 3b9; 1fc1 a8 342; 1fc2 3b7 300 345;
    1fc3 3b7 345; 1fc4 3b7 301 345; 1fc6 3b7 342; 1fc7 3b7 342 345; 1fc8 395 300; 1fc9 395 301;
    1fca 397 300; 1fcb 397 301; 1fcc 397 345; 1fcd 1fbf 300; 1fce 1fbf 301; 1fcf 1fbf 342;
    1fd0 3b9 306; 1fd1 3b9 304; 1fd2 3b9 308 300; 1fd3 3b9 308 301; 1fd6 3b9 342;
    1fd7 3b9 308 342; 1fd8 399 306; 1fd9 399 304; 1fda 399 300; 1fdb 399 301; 1fdd 1ffe 300;
    1fde 1ffe 301; 1fdf 1ffe 342; 1fe0 3c5 306; 1fe1 3c5 304; 1fe2 3c5 308 300; 1fe3 3c5 308 301;
    1fe4 3c1 313; 1fe5 3c1 314; 1fe6 3c5 342; 1fe7 3c5 308 342; 1fe8 3a5 306; 1fe9 3a5 304;
    1fea 3a5 300; 1feb 3a5 301; 1fec 3a1 314; 1fed a8 300; 1fee a8 301; 1fef 60; 1ff2 3c9 300 345;
    1ff3 3c9 345; 1ff4 3c9 301 345; 1ff6 3c9 342; 1ff7 3c9 342 345; 1ff8 39f 300; 1ff9 39f 301;
    1ffa 3a9 300; 1ffb 3a9 301; 1ffc 3a9 345; 1ffd b4; 2000 2002; 2001 2003; 2126 3a9; 212a 4b;
    212b 41 30a; 219a 2190 338; 219b 2192 338; 21ae 2194 338; 21cd 21d0 338; 21ce 21d4 338;
    21cf 21d2 338; 2204 2203 338; 2209 2208 338; 220c 220b 338; 2224 2223 338; 2226 2225 338;
    2241 223c 338; 2244 2243 338; 2247 2245 338; 2249 2248 338; 2260 3d 338; 2262 2261 338;
    226d 224d 338; 226e 3c 338; 226f 3e 338; 2270 2264 338; 2271 2265 338; 2274 2272 338;
    2275 2273 338; 2278 2276 338; 2279 2277 338; 2280 227a 338; 2281 227b 338; 2284 2282 338;
    2285 2283 338; 2288 2286 338; 2289 2287 338; 22ac 22a2 338; 22ad 22a8 338; 22ae 22a9 338;
    22af 22ab 338; 22e0 227c 338; 22e1 227d 338; 22e2 2291 338; 22e3 2292 338; 22ea 22b2 338;
    22eb 22b3 338; 22ec 22b4 338; 22ed 22b5 338; 2329 3008; 232a 3009; 2adc 2add 338;
    304c 304b 3099; 304e 304d 3099; 3050 304f 3099; 3052 3051 3099; 3054 3053 3099;
    3056 3055 3099; 3058 3057 3099; 305a 3059 3099; 305c 305b 3099; 305e 305d 3099;
    3060 305f 3099; 3062 3061 3099; 3065 3064 3099; 3067 3066 3099; 3069 3068 3099;
    3070 306f 3099; 3071 306f 309a; 3073 3072 3099; 3074 3072 309a; 3076 3075 3099;
    3077 3075 309a; 3079 3078 3099; 307a 3078 309a; 307c 307b 3099; 307d 307b 309a;
    3094 3046 3099; 309e 309d 3099; 30ac 30ab 3099; 30ae 30ad 3099; 30b0 30af 3099;
    30b2 30b1 3099; 30b4 30b3 3099; 30b6 30b5 3099; 30b8 30b7 3099; 30ba 30b9 3099;
    30bc 30bb 3099; 30be 30bd 3099; 30c0 30bf 3099; 30c2 30c1 3099; 30c5 30c4 3099;
    30c7 30c6 3099; 30c9 30c8 3099; 30d0 30cf 3099; 30d1 30cf 309a; 30d3 30d2 3099;
    30d4 30d2 309a; 30d6 30d5 3099; 30d7 30d5 309a; 30d9 30d8 3099; 30da 30d8 309a;
    30dc 30db 3099; 30dd 30db 309a; 30f4 30a6 3099; 30f7 30ef 3099; 30f8 30f0 3099;
    30f9 30f1 3099; 30fa 30f2 3099; 30fe 30fd 3099; f900 8c48; f901 66f4; f902 8eca; f903 8cc8;
    f904 6ed1; f905 4e32; f906 53e5; f907 9f9c; f908 9f9c; f909 5951; f90a 91d1; f90b 5587;
    f90c 5948; f90d 61f6; f90e 7669; f90f 7f85; f910 863f; f911 87ba; f912 88f8; f913 908f;
    f914 6a02; f915 6d1b; f916 70d9; f917 73de; f918 843d; f919 916a; f91a 99f1; f91b 4e82;
    f91c 5375; f91d 6b04; f91e 721b; f91f 862d; f920 9e1e; f921 5d50; f922 6feb; f923 85cd;
    f924 8964; f925 62c9; f926 81d8; f927 881f; f928 5eca; f929 6717; f92a 6d6a; f92b 72fc;
    f92c 90ce; f92d 4f86; f92e 51b7; f92f 52de; f930 64c4; f931 6ad3; f932 7210; f933 76e7;
    f934 8001; f935 8606; f936 865c; f937 8def; f938 9732; f939 9b6f; f93a 9dfa; f93b 788c;
    f93c 797f; f93d 7da0; f93e 83c9; f93f 9304; f940 9e7f; f941 8ad6; f942 58df; f943 5f04;
    f944 7c60; f945 807e; f946 7262; f947 78ca; f948 8cc2; f949 96f7; f94a 58d8; f94b 5c62;
    f94c 6a13; f94d 6dda; f94e 6f0f; f94f 7d2f; f950 7e37; f951 964b; f952 52d2; f953 808b;
    f954 51dc; f955 51cc; f956 7a1c; f957 7dbe; f958 83f1; f959 9675; f95a 8b80; f95b 62cf;
    f95c 6a02; f95d 8afe; f95e 4e39; f95f 5be7; f960 6012; f961 7387; f962 7570; f963 5317;
    f964 78fb; f965 4fbf; f966 5fa9; f967 4e0d; f968 6ccc; f969 6578; f96a 7d22; f96b 53c3;
    f96c 585e; f96d 7701; f96e 8449; f96f 8aaa; f970 6bba; f971 8fb0; f972 6c88; f973 62fe;
    f974 82e5; f975 63a0; f976 7565; f977 4eae; f978 5169; f979 51c9; f97a 6881; f97b 7ce7;
    f97c 826f; f97d 8ad2; f97e 91cf; f97f 52f5; f980 5442; f981 5973; f982 5eec; f983 65c5;
    f984 6ffe; f985 792a; f986 95ad; f987 9a6a; f988 9e97; f989 9ece; f98a 529b; f98b 66c6;
    f98c 6b77; f98d 8f62; f98e 5e74; f98f 6190; f990 6200; f991 649a; f992 6f23; f993 7149;
    f994 7489; f995 79ca; f996 7df4; f997 806f; f998 8f26; f999 84ee; f99a 9023; f99b 934a;
    f99c 5217; f99d 52a3; f99e 54bd; f99f 70c8; f9a0 88c2; f9a1 8aaa; f9a2 5ec9; f9a3 5ff5;
    f9a4 637b; f9a5 6bae; f9a6 7c3e; f9a7 7375; f9a8 4ee4; f9a9 56f9; f9aa 5be7; f9ab 5dba;
    f9ac 601c; f9ad 73b2; f9ae 7469; f9af 7f9a; f9b0 8046; f9b1 9234; f9b2 96f6; f9b3 9748;
    f9b4 9818; f9b5 4f8b; f9b6 79ae; f9b7 91b4; f9b8 96b8; f9b9 60e1; f9ba 4e86; f9bb 50da;
    f9bc 5bee; f9bd 5c3f; f9be 6599; f9bf 6a02; f9c0 71ce; f9c1 7642; f9c2 84fc; f9c3 907c;
    f9c4 9f8d; f9c5 6688; f9c6 962e; f9c7 5289; f9c8 677b; f9c9 67f3; f9ca 6d41; f9cb 6e9c;
    f9cc 7409; f9cd 7559; f9ce 786b; f9cf 7d10; f9d0 985e; f9d1 516d; f9d2 622e; f9d3 9678;
    f9d4 502b; f9d5 5d19; f9d6 6dea; f9d7 8f2a; f9d8 5f8b; f9d9 6144; f9da 6817; f9db 7387;
    f9dc 9686; f9dd 5229; f9de 540f; f9df 5c65; f9e0 6613; f9e1 674e; f9e2 68a8; f9e3 6ce5;
    f9e4 7406; f9e5 75e2; f9e6 7f79; f9e7 88cf; f9e8 88e1; f9e9 91cc; f9ea 96e2; f9eb 533f;
    f9ec 6eba; f9ed 541d; f9ee 71d0; f9ef 7498; f9f0 85fa; f9f1 96a3; f9f2 9c57; f9f3 9e9f;
    f9f4 6797; f9f5 6dcb; f9f6 81e8; f9f7 7acb; f9f8 7b20; f9f9 7c92; f9fa 72c0; f9fb 7099;
    f9fc 8b58; f9fd 4ec0; f9fe 8336; f9ff 523a; fa00 5207; fa01 5ea6; fa02 62d3; fa03 7cd6;
    fa04 5b85; fa05 6d1e; fa06 66b4; fa07 8f3b; fa08 884c; fa09 964d; fa0a 898b; fa0b 5ed3;
    fa0c 5140; fa0d 55c0; fa10 585a; fa12 6674; fa15 51de; fa16 732a; fa17 76ca; fa18 793c;
    fa19 795e; fa1a 7965; fa1b 798f; fa1c 9756; fa1d 7cbe; fa1e 7fbd; fa20 8612; fa22 8af8;
    fa25 9038; fa26 90fd; fa2a 98ef; fa2b 98fc; fa2c 9928; fa2d 9db4; fa2e 90de; fa2f 96b7;
    fa30 4fae; fa31 50e7; fa32 514d; fa33 52c9; fa34 52e4; fa35 5351; fa36 559d; fa37 5606;
    fa38 5668; fa39 5840; fa3a 58a8; fa3b 5c64; fa3c 5c6e; fa3d 6094; fa3e 6168; fa3f 618e;
    fa40 61f2; fa41 654f; fa42 65e2; fa43 6691; fa44 6885; fa45 6d77; fa46 6e1a; fa47 6f22;
    fa48 716e; fa49 722b; fa4a 7422; fa4b 7891; fa4c 793e; fa4d 7949; fa4e 7948; fa4f 7950;
    fa50 7956; fa51 795d; fa52 798d; fa53 798e; fa54 7a40; fa55 7a81; fa56 7bc0; fa57 7df4;
    fa58 7e09; fa59 7e41; fa5a 7f72; fa5b 8005; fa5c 81ed; fa5d 8279; fa5e 8279; fa5f 8457;
    fa60 8910; fa61 8996; fa62 8b01; fa63 8b39; fa64 8cd3; fa65 8d08; fa66 8fb6; fa67 9038;
    fa68 96e3; fa69 97ff; fa6a 983b; fa6b 6075; fa6c 242ee; fa6d 8218; fa70 4e26; fa71 51b5;
    fa72 5168; fa73 4f80; fa74 5145; fa75 5180; fa76 52c7; fa77 52fa; fa78 559d; fa79 5555;
    fa7a 5599; fa7b 55e2; fa7c 585a; fa7d 58b3; fa7e 5944; fa7f 5954; fa80 5a62; fa81 5b28;
    fa82 5ed2; fa83 5ed9; fa84 5f69; fa85 5fad; fa86 60d8; fa87 614e; fa88 6108; fa89 618e;
    fa8a 6160; fa8b 61f2; fa8c 6234; fa8d 63c4; fa8e 641c; fa8f 6452; fa90 6556; fa91 6674;
    fa92 6717; fa93 671b; fa94 6756; fa95 6b79; fa96 6bba; fa97 6d41; fa98 6edb; fa99 6ecb;
    fa9a 6f22; fa9b 701e; fa9c 716e; fa9d 77a7; fa9e 7235; fa9f 72af; faa0 732a; faa1 7471;
    faa2 7506; faa3 753b; faa4 761d; faa5 761f; faa6 76ca; faa7 76db; faa8 76f4; faa9 774a;
    faaa 7740; faab 78cc; faac 7ab1; faad 7bc0; faae 7c7b; faaf 7d5b; fab0 7df4; fab1 7f3e;
    fab2 8005; fab3 8352; fab4 83ef; fab5 8779; fab6 8941; fab7 8986; fab8 8996; fab9 8abf;
    faba 8af8; fabb 8acb; fabc 8b01; fabd 8afe; fabe 8aed; fabf 8b39; fac0 8b8a; fac1 8d08;
    fac2 8f38; fac3 9072; fac4 9199; fac5 9276; fac6 967c; fac7 96e3; fac8 9756; fac9 97db;
    faca 97ff; facb 980b; facc 983b; facd 9b12; face 9f9c; facf 2284a; fad0 22844; fad1 233d5;
    fad2 3b9d; fad3 4018; fad4 4039; fad5 25249; fad6 25cd0; fad7 27ed3; fad8 9f43; fad9 9f8e;
    fb1d 5d9 5b4; fb1f 5f2 5b7; fb2a 5e9 5c1; fb2b 5e9 5c2; fb2c 5e9 5bc 5c1; fb2d 5e9 5bc 5c2;
    fb2e 5d0 5b7; fb2f 5d0 5b8; fb30 5d0 5bc; fb31 5d1 5bc; fb32 5d2 5bc; fb33 5d3 5bc;
    fb34 5d4 5bc; fb35 5d5 5bc; fb36 5d6 5bc; fb38 5d8 5bc; fb39 5d9 5bc; fb3a 5da 5bc;
    fb3b 5db 5bc; fb3c 5dc 5bc; fb3e 5de 5bc; fb40 5e0 5bc; fb41 5e1 5bc; fb43 5e3 5bc;
    fb44 5e4 5bc; fb46 5e6 5bc; fb47 5e7 5bc; fb48 5e8 5bc; fb49 5e9 5bc; fb4a 5ea 5bc;
    fb4b 5d5 5b9; fb4c 5d1 5bf; fb4d 5db 5bf; fb4e 5e4 5bf; 105c9 105d2 307; 105e4 105da 307;
    1109a 11099 110ba; 1109c 1109b 110ba; 110ab 110a5 110ba; 1112e 11131 11127; 1112f 11132 11127;
    1134b 11347 1133e; 1134c 11347 11357; 11383 11382 113c9; 11385 11384 113bb; 1138e 1138b 113c2;
    11391 11390 113c9; 113c5 113c2 113c2; 113c7 113c2 113b8; 113c8 113c2 113c9; 114bb 114b9 114ba;
    114bc 114b9 114b0; 114be 114b9 114bd; 115ba 115b8 115af; 115bb 115b9 115af; 11938 11935 11930;
    16121 1611e 1611e; 16122 1611e 16129; 16123 1611e 1611f; 16124 16129 1611f; 16125 1611e 16120;
    16126 1611e 1611e 1611f; 16127 1611e 16129 1611f; 16128 1611e 1611e 16120; 16d68 16d67 16d67;
    16d69 16d63 16d67; 16d6a 16d63 16d67 16d67; 1d15e 1d157 1d165; 1d15f 1d158 1d165;
    1d160 1d158 1d165 1d16e; 1d161 1d158 1d165 1d16f; 1d162 1d158 1d165 1d170;
    1d163 1d158 1d165 1d171; 1d164 1d158 1d165 1d172; 1d1bb 1d1b9 1d165; 1d1bc 1d1ba 1d165;
    1d1bd 1d1b9 1d165 1d16e; 1d1be 1d1ba 1d165 1d16e; 1d1bf 1d1b9 1d165 1d16f;
    1d1c0 1d1ba 1d165 1d16f; 2f800 4e3d; 2f801 4e38; 2f802 4e41; 2f803 20122; 2f804 4f60;
    2f805 4fae; 2f806 4fbb; 2f807 5002; 2f808 507a; 2f809 5099; 2f80a 50e7; 2f80b 50cf;
    2f80c 349e; 2f80d 2063a; 2f80e 514d; 2f80f 5154; 2f810 5164; 2f811 5177; 2f812 2051c;
    2f813 34b9; 2f814 5167; 2f815 518d; 2f816 2054b; 2f817 5197; 2f818 51a4; 2f819 4ecc;
    2f81a 51ac; 2f81b 51b5; 2f81c 291df; 2f81d 51f5; 2f81e 5203; 2f81f 34df; 2f820 523b;
    2f821 5246; 2f822 5272; 2f823 5277; 2f824 3515; 2f825 52c7; 2f826 52c9; 2f827 52e4;
    2f828 52fa; 2f829 5305; 2f82a 5306; 2f82b 5317; 2f82c 5349; 2f82d 5351; 2f82e 535a;
    2f82f 5373; 2f830 537d; 2f831 537f; 2f832 537f; 2f833 537f; 2f834 20a2c; 2f835 7070;
    2f836 53ca; 2f837 53df; 2f838 20b63; 2f839 53eb; 2f83a 53f1; 2f83b 5406; 2f83c 549e;
    2f83d 5438; 2f83e 5448; 2f83f 5468; 2f840 54a2; 2f841 54f6; 2f842 5510; 2f843 5553;
    2f844 5563; 2f845 5584; 2f846 5584; 2f847 5599; 2f848 55ab; 2f849 55b3; 2f84a 55c2;
    2f84b 5716; 2f84c 5606; 2f84d 5717; 2f84e 5651; 2f84f 5674; 2f850 5207; 2f851 58ee;
    2f852 57ce; 2f853 57f4; 2f854 580d; 2f855 578b; 2f856 5832; 2f857 5831; 2f858 58ac;
    2f859 214e4; 2f85a 58f2; 2f85b 58f7; 2f85c 5906; 2f85d 591a; 2f85e 5922; 2f85f 5962;
    2f860 216a8; 2f861 216ea; 2f862 59ec; 2f863 5a1b; 2f864 5a27; 2f865 59d8; 2f866 5a66;
    2f867 36ee; 2f868 36fc; 2f869 5b08; 2f86a 5b3e; 2f86b 5b3e; 2f86c 219c8; 2f86d 5bc3;
    2f86e 5bd8; 2f86f 5be7; 2f870 5bf3; 2f871 21b18; 2f872 5bff; 2f873 5c06; 2f874 5f53;
    2f875 5c22; 2f876 3781; 2f877 5c60; 2f878 5c6e; 2f879 5cc0; 2f87a 5c8d; 2f87b 21de4;
    2f87c 5d43; 2f87d 21de6; 2f87e 5d6e; 2f87f 5d6b; 2f880 5d7c; 2f881 5de1; 2f882 5de2;
    2f883 382f; 2f884 5dfd; 2f885 5e28; 2f886 5e3d; 2f887 5e69; 2f888 3862; 2f889 22183;
    2f88a 387c; 2f88b 5eb0; 2f88c 5eb3; 2f88d 5eb6; 2f88e 5eca; 2f88f 2a392; 2f890 5efe;
    2f891 22331; 2f892 22331; 2f893 8201; 2f894 5f22; 2f895 5f22; 2f896 38c7; 2f897 232b8;
    2f898 261da; 2f899 5f62; 2f89a 5f6b; 2f89b 38e3; 2f89c 5f9a; 2f89d 5fcd; 2f89e 5fd7;
    2f89f 5ff9; 2f8a0 6081; 2f8a1 393a; 2f8a2 391c; 2f8a3 6094; 2f8a4 226d4; 2f8a5 60c7;
    2f8a6 6148; 2f8a7 614c; 2f8a8 614e; 2f8a9 614c; 2f8aa 617a; 2f8ab 618e; 2f8ac 61b2;
    2f8ad 61a4; 2f8ae 61af; 2f8af 61de; 2f8b0 61f2; 2f8b1 61f6; 2f8b2 6210; 2f8b3 621b;
    2f8b4 625d; 2f8b5 62b1; 2f8b6 62d4; 2f8b7 6350; 2f8b8 22b0c; 2f8b9 633d; 2f8ba 62fc;
    2f8bb 6368; 2f8bc 6383; 2f8bd 63e4; 2f8be 22bf1; 2f8bf 6422; 2f8c0 63c5; 2f8c1 63a9;
    2f8c2 3a2e; 2f8c3 6469; 2f8c4 647e; 2f8c5 649d; 2f8c6 6477; 2f8c7 3a6c; 2f8c8 654f;
    2f8c9 656c; 2f8ca 2300a; 2f8cb 65e3; 2f8cc 66f8; 2f8cd 6649; 2f8ce 3b19; 2f8cf 6691;
    2f8d0 3b08; 2f8d1 3ae4; 2f8d2 5192; 2f8d3 5195; 2f8d4 6700; 2f8d5 669c; 2f8d6 80ad;
    2f8d7 43d9; 2f8d8 6717; 2f8d9 671b; 2f8da 6721; 2f8db 675e; 2f8dc 6753; 2f8dd 233c3;
    2f8de 3b49; 2f8df 67fa; 2f8e0 6785; 2f8e1 6852; 2f8e2 6885; 2f8e3 2346d; 2f8e4 688e;
    2f8e5 681f; 2f8e6 6914; 2f8e7 3b9d; 2f8e8 6942; 2f8e9 69a3; 2f8ea 69ea; 2f8eb 6aa8;
    2f8ec 236a3; 2f8ed 6adb; 2f8ee 3c18; 2f8ef 6b21; 2f8f0 238a7; 2f8f1 6b54; 2f8f2 3c4e;
    2f8f3 6b72; 2f8f4 6b9f; 2f8f5 6bba; 2f8f6 6bbb; 2f8f7 23a8d; 2f8f8 21d0b; 2f8f9 23afa;
    2f8fa 6c4e; 2f8fb 23cbc; 2f8fc 6cbf; 2f8fd 6ccd; 2f8fe 6c67; 2f8ff 6d16; 2f900 6d3e;
    2f901 6d77; 2f902 6d41; 2f903 6d69; 2f904 6d78; 2f905 6d85; 2f906 23d1e; 2f907 6d34;
    2f908 6e2f; 2f909 6e6e; 2f90a 3d33; 2f90b 6ecb; 2f90c 6ec7; 2f90d 23ed1; 2f90e 6df9;
    2f90f 6f6e; 2f910 23f5e; 2f911 23f8e; 2f912 6fc6; 2f913 7039; 2f914 701e; 2f915 701b;
    2f916 3d96; 2f917 704a; 2f918 707d; 2f919 7077; 2f91a 70ad; 2f91b 20525; 2f91c 7145;
    2f91d 24263; 2f91e 719c; 2f91f 243ab; 2f920 7228; 2f921 7235; 2f922 7250; 2f923 24608;
    2f924 7280; 2f925 7295; 2f926 24735; 2f927 24814; 2f928 737a; 2f929 738b; 2f92a 3eac;
    2f92b 73a5; 2f92c 3eb8; 2f92d 3eb8; 2f92e 7447; 2f92f 745c; 2f930 7471; 2f931 7485;
    2f932 74ca; 2f933 3f1b; 2f934 7524; 2f935 24c36; 2f936 753e; 2f937 24c92; 2f938 7570;
    2f939 2219f; 2f93a 7610; 2f93b 24fa1; 2f93c 24fb8; 2f93d 25044; 2f93e 3ffc; 2f93f 4008;
    2f940 76f4; 2f941 250f3; 2f942 250f2; 2f943 25119; 2f944 25133; 2f945 771e; 2f946 771f;
    2f947 771f; 2f948 774a; 2f949 4039; 2f94a 778b; 2f94b 4046; 2f94c 4096; 2f94d 2541d;
    2f94e 784e; 2f94f 788c; 2f950 78cc; 2f951 40e3; 2f952 25626; 2f953 7956; 2f954 2569a;
    2f955 256c5; 2f956 798f; 2f957 79eb; 2f958 412f; 2f959 7a40; 2f95a 7a4a; 2f95b 7a4f;
    2f95c 2597c; 2f95d 25aa7; 2f95e 25aa7; 2f95f 7aee; 2f960 4202; 2f961 25bab; 2f962 7bc6;
    2f963 7bc9; 2f964 4227; 2f965 25c80; 2f966 7cd2; 2f967 42a0; 2f968 7ce8; 2f969 7ce3;
    2f96a 7d00; 2f96b 25f86; 2f96c 7d63; 2f96d 4301; 2f96e 7dc7; 2f96f 7e02; 2f970 7e45;
    2f971 4334; 2f972 26228; 2f973 26247; 2f974 4359; 2f975 262d9; 2f976 7f7a; 2f977 2633e;
    2f978 7f95; 2f979 7ffa; 2f97a 8005; 2f97b 264da; 2f97c 26523; 2f97d 8060; 2f97e 265a8;
    2f97f 8070; 2f980 2335f; 2f981 43d5; 2f982 80b2; 2f983 8103; 2f984 440b; 2f985 813e;
    2f986 5ab5; 2f987 267a7; 2f988 267b5; 2f989 23393; 2f98a 2339c; 2f98b 8201; 2f98c 8204;
    2f98d 8f9e; 2f98e 446b; 2f98f 8291; 2f990 828b; 2f991 829d; 2f992 52b3; 2f993 82b1;
    2f994 82b3; 2f995 82bd; 2f996 82e6; 2f997 26b3c; 2f998 82e5; 2f999 831d; 2f99a 8363;
    2f99b 83ad; 2f99c 8323; 2f99d 83bd; 2f99e 83e7; 2f99f 8457; 2f9a0 8353; 2f9a1 83ca;
    2f9a2 83cc; 2f9a3 83dc; 2f9a4 26c36; 2f9a5 26d6b; 2f9a6 26cd5; 2f9a7 452b; 2f9a8 84f1;
    2f9a9 84f3; 2f9aa 8516; 2f9ab 273ca; 2f9ac 8564; 2f9ad 26f2c; 2f9ae 455d; 2f9af 4561;
    2f9b0 26fb1; 2f9b1 270d2; 2f9b2 456b; 2f9b3 8650; 2f9b4 865c; 2f9b5 8667; 2f9b6 8669;
    2f9b7 86a9; 2f9b8 8688; 2f9b9 870e; 2f9ba 86e2; 2f9bb 8779; 2f9bc 8728; 2f9bd 876b;
    2f9be 8786; 2f9bf 45d7; 2f9c0 87e1; 2f9c1 8801; 2f9c2 45f9; 2f9c3 8860; 2f9c4 8863;
    2f9c5 27667; 2f9c6 88d7; 2f9c7 88de; 2f9c8 4635; 2f9c9 88fa; 2f9ca 34bb; 2f9cb 278ae;
    2f9cc 27966; 2f9cd 46be; 2f9ce 46c7; 2f9cf 8aa0; 2f9d0 8aed; 2f9d1 8b8a; 2f9d2 8c55;
    2f9d3 27ca8; 2f9d4 8cab; 2f9d5 8cc1; 2f9d6 8d1b; 2f9d7 8d77; 2f9d8 27f2f; 2f9d9 20804;
    2f9da 8dcb; 2f9db 8dbc; 2f9dc 8df0; 2f9dd 208de; 2f9de 8ed4; 2f9df 8f38; 2f9e0 285d2;
    2f9e1 285ed; 2f9e2 9094; 2f9e3 90f1; 2f9e4 9111; 2f9e5 2872e; 2f9e6 911b; 2f9e7 9238;
    2f9e8 92d7; 2f9e9 92d8; 2f9ea 927c; 2f9eb 93f9; 2f9ec 9415; 2f9ed 28bfa; 2f9ee 958b;
    2f9ef 4995; 2f9f0 95b7; 2f9f1 28d77; 2f9f2 49e6; 2f9f3 96c3; 2f9f4 5db2; 2f9f5 9723;
    2f9f6 29145; 2f9f7 2921a; 2f9f8 4a6e; 2f9f9 4a76; 2f9fa 97e0; 2f9fb 2940a; 2f9fc 4ab2;
    2f9fd 29496; 2f9fe 980b; 2f9ff 980b; 2fa00 9829; 2fa01 295b6; 2fa02 98e2; 2fa03 4b33;
    2fa04 9929; 2fa05 99a7; 2fa06 99c2; 2fa07 99fe; 2fa08 4bce; 2fa09 29b30; 2fa0a 9b12;
    2fa0b 9c40; 2fa0c 9cfd; 2fa0d 4cce; 2fa0e 4ced; 2fa0f 9d67; 2fa10 2a0ce; 2fa11 4cf8;
    2fa12 2a105; 2fa13 2a20e; 2fa14 2a291; 2fa15 9ebb; 2fa16 4d56; 2fa17 9ef9; 2fa18 9efe;
    2fa19 9f05; 2fa1a 9f0f; 2fa1b 9f16; 2fa1c 9f3b; 2fa1d 2a600"

/-- A pair of characters, as the first times `2 ^ 21` plus the second, and its composition. -/
def compositions : CodeRows := .ofText "
    7800338 226e; 7a00338 2260; 7c00338 226f; 8200300 c0; 8200301 c1; 8200302 c2; 8200303 c3;
    8200304 100; 8200306 102; 8200307 226; 8200308 c4; 8200309 1ea2; 820030a c5; 820030c 1cd;
    820030f 200; 8200311 202; 8200323 1ea0; 8200325 1e00; 8200328 104; 8400307 1e02; 8400323 1e04;
    8400331 1e06; 8600301 106; 8600302 108; 8600307 10a; 860030c 10c; 8600327 c7; 8800307 1e0a;
    880030c 10e; 8800323 1e0c; 8800327 1e10; 880032d 1e12; 8800331 1e0e; 8a00300 c8; 8a00301 c9;
    8a00302 ca; 8a00303 1ebc; 8a00304 112; 8a00306 114; 8a00307 116; 8a00308 cb; 8a00309 1eba;
    8a0030c 11a; 8a0030f 204; 8a00311 206; 8a00323 1eb8; 8a00327 228; 8a00328 118; 8a0032d 1e18;
    8a00330 1e1a; 8c00307 1e1e; 8e00301 1f4; 8e00302 11c; 8e00304 1e20; 8e00306 11e; 8e00307 120;
    8e0030c 1e6; 8e00327 122; 9000302 124; 9000307 1e22; 9000308 1e26; 900030c 21e; 9000323 1e24;
    9000327 1e28; 900032e 1e2a; 9200300 cc; 9200301 cd; 9200302 ce; 9200303 128; 9200304 12a;
    9200306 12c; 9200307 130; 9200308 cf; 9200309 1ec8; 920030c 1cf; 920030f 208; 9200311 20a;
    9200323 1eca; 9200328 12e; 9200330 1e2c; 9400302 134; 9600301 1e30; 960030c 1e8; 9600323 1e32;
    9600327 136; 9600331 1e34; 9800301 139; 980030c 13d; 9800323 1e36; 9800327 13b; 980032d 1e3c;
    9800331 1e3a; 9a00301 1e3e; 9a00307 1e40; 9a00323 1e42; 9c00300 1f8; 9c00301 143; 9c00303 d1;
    9c00307 1e44; 9c0030c 147; 9c00323 1e46; 9c00327 145; 9c0032d 1e4a; 9c00331 1e48; 9e00300 d2;
    9e00301 d3; 9e00302 d4; 9e00303 d5; 9e00304 14c; 9e00306 14e; 9e00307 22e; 9e00308 d6;
    9e00309 1ece; 9e0030b 150; 9e0030c 1d1; 9e0030f 20c; 9e00311 20e; 9e0031b 1a0; 9e00323 1ecc;
    9e00328 1ea; a000301 1e54; a000307 1e56; a400301 154; a400307 1e58; a40030c 158; a40030f 210;
    a400311 212; a400323 1e5a; a400327 156; a400331 1e5e; a600301 15a; a600302 15c; a600307 1e60;
    a60030c 160; a600323 1e62; a600326 218; a600327 15e; a800307 1e6a; a80030c 164; a800323 1e6c;
    a800326 21a; a800327 162; a80032d 1e70; a800331 1e6e; aa00300 d9; aa00301 da; aa00302 db;
    aa00303 168; aa00304 16a; aa00306 16c; aa00308 dc; aa00309 1ee6; aa0030a 16e; aa0030b 170;
    aa0030c 1d3; aa0030f 214; aa00311 216; aa0031b 1af; aa00323 1ee4; aa00324 1e72; aa00328 172;
    aa0032d 1e76; aa00330 1e74; ac00303 1e7c; ac00323 1e7e; ae00300 1e80; ae00301 1e82;
    ae00302 174; ae00307 1e86; ae00308 1e84; ae00323 1e88; b000307 1e8a; b000308 1e8c;
    b200300 1ef2; b200301 dd; b200302 176; b200303 1ef8; b200304 232; b200307 1e8e; b200308 178;
    b200309 1ef6; b200323 1ef4; b400301 179; b400302 1e90; b400307 17b; b40030c 17d; b400323 1e92;
    b400331 1e94; c200300 e0; c200301 e1; c200302 e2; c200303 e3; c200304 101; c200306 103;
    c200307 227; c200308 e4; c200309 1ea3; c20030a e5; c20030c 1ce; c20030f 201; c200311 203;
    c200323 1ea1; c200325 1e01; c200328 105; c400307 1e03; c400323 1e05; c400331 1e07;
    c600301 107; c600302 109; c600307 10b; c60030c 10d; c600327 e7; c800307 1e0b; c80030c 10f;
    c800323 1e0d; c800327 1e11; c80032d 1e13; c800331 1e0f; ca00300 e8; ca00301 e9; ca00302 ea;
    ca00303 1ebd; ca00304 113; ca00306 115; ca00307 117; ca00308 eb; ca00309 1ebb; ca0030c 11b;
    ca0030f 205; ca00311 207; ca00323 1eb9; ca00327 229; ca00328 119; ca0032d 1e19; ca00330 1e1b;
    cc00307 1e1f; ce00301 1f5; ce00302 11d; ce00304 1e21; ce00306 11f; ce00307 121; ce0030c 1e7;
    ce00327 123; d000302 125; d000307 1e23; d000308 1e27; d00030c 21f; d000323 1e25; d000327 1e29;
    d00032e 1e2b; d000331 1e96; d200300 ec; d200301 ed; d200302 ee; d200303 129; d200304 12b;
    d200306 12d; d200308 ef; d200309 1ec9; d20030c 1d0; d20030f 209; d200311 20b; d200323 1ecb;
    d200328 12f; d200330 1e2d; d400302 135; d40030c 1f0; d600301 1e31; d60030c 1e9; d600323 1e33;
    d600327 137; d600331 1e35; d800301 13a; d80030c 13e; d800323 1e37; d800327 13c; d80032d 1e3d;
    d800331 1e3b; da00301 1e3f; da00307 1e41; da00323 1e43; dc00300 1f9; dc00301 144; dc00303 f1;
    dc00307 1e45; dc0030c 148; dc00323 1e47; dc00327 146; dc0032d 1e4b; dc00331 1e49; de00300 f2;
    de00301 f3; de00302 f4; de00303 f5; de00304 14d; de00306 14f; de00307 22f; de00308 f6;
    de00309 1ecf; de0030b 151; de0030c 1d2; de0030f 20d; de00311 20f; de0031b 1a1; de00323 1ecd;
    de00328 1eb; e000301 1e55; e000307 1e57; e400301 155; e400307 1e59; e40030c 159; e40030f 211;
    e400311 213; e400323 1e5b; e400327 157; e400331 1e5f; e600301 15b; e600302 15d; e600307 1e61;
    e60030c 161; e600323 1e63; e600326 219; e600327 15f; e800307 1e6b; e800308 1e97; e80030c 165;
    e800323 1e6d; e800326 21b; e800327 163; e80032d 1e71; e800331 1e6f; ea00300 f9; ea00301 fa;
    ea00302 fb; ea00303 169; ea00304 16b; ea00306 16d; ea00308 fc; ea00309 1ee7; ea0030a 16f;
    ea0030b 171; ea0030c 1d4; ea0030f 215; ea00311 217; ea0031b 1b0; ea00323 1ee5; ea00324 1e73;
    ea00328 173; ea0032d 1e77; ea00330 1e75; ec00303 1e7d; ec00323 1e7f; ee00300 1e81;
    ee00301 1e83; ee00302 175; ee00307 1e87; ee00308 1e85; ee0030a 1e98; ee00323 1e89;
    f000307 1e8b; f000308 1e8d; f200300 1ef3; f200301 fd; f200302 177; f200303 1ef9; f200304 233;
    f200307 1e8f; f200308 ff; f200309 1ef7; f20030a 1e99; f200323 1ef5; f400301 17a; f400302 1e91;
    f400307 17c; f40030c 17e; f400323 1e93; f400331 1e95; 15000300 1fed; 15000301 385;
    15000342 1fc1; 18400300 1ea6; 18400301 1ea4; 18400303 1eaa; 18400309 1ea8; 18800304 1de;
    18a00301 1fa; 18c00301 1fc; 18c00304 1e2; 18e00301 1e08; 19400300 1ec0; 19400301 1ebe;
    19400303 1ec4; 19400309 1ec2; 19e00301 1e2e; 1a800300 1ed2; 1a800301 1ed0; 1a800303 1ed6;
    1a800309 1ed4; 1aa00301 1e4c; 1aa00304 22c; 1aa00308 1e4e; 1ac00304 22a; 1b000301 1fe;
    1b800300 1db; 1b800301 1d7; 1b800304 1d5; 1b80030c 1d9; 1c400300 1ea7; 1c400301 1ea5;
    1c400303 1eab; 1c400309 1ea9; 1c800304 1df; 1ca00301 1fb; 1cc00301 1fd; 1cc00304 1e3;
    1ce00301 1e09; 1d400300 1ec1; 1d400301 1ebf; 1d400303 1ec5; 1d400309 1ec3; 1de00301 1e2f;
    1e800300 1ed3; 1e800301 1ed1; 1e800303 1ed7; 1e800309 1ed5; 1ea00301 1e4d; 1ea00304 22d;
    1ea00308 1e4f; 1ec00304 22b; 1f000301 1ff; 1f800300 1dc; 1f800301 1d8; 1f800304 1d6;
    1f80030c 1da; 20400300 1eb0; 20400301 1eae; 20400303 1eb4; 20400309 1eb2; 20600300 1eb1;
    20600301 1eaf; 20600303 1eb5; 20600309 1eb3; 22400300 1e14; 22400301 1e16; 22600300 1e15;
    22600301 1e17; 29800300 1e50; 29800301 1e52; 29a00300 1e51; 29a00301 1e53; 2b400307 1e64;
    2b600307 1e65; 2c000307 1e66; 2c200307 1e67; 2d000301 1e78; 2d200301 1e79; 2d400308 1e7a;
    2d600308 1e7b; 2fe00307 1e9b; 34000300 1edc; 34000301 1eda; 34000303 1ee0; 34000309 1ede;
    34000323 1ee2; 34200300 1edd; 34200301 1edb; 34200303 1ee1; 34200309 1edf; 34200323 1ee3;
    35e00300 1eea; 35e00301 1ee8; 35e00303 1eee; 35e00309 1eec; 35e00323 1ef0; 36000300 1eeb;
    36000301 1ee9; 36000303 1eef; 36000309 1eed; 36000323 1ef1; 36e0030c 1ee; 3d400304 1ec;
    3d600304 1ed; 44c00304 1e0; 44e00304 1e1; 45000306 1e1c; 45200306 1e1d; 45c00304 230;
    45e00304 231; 5240030c 1ef; 72200300 1fba; 72200301 386; 72200304 1fb9; 72200306 1fb8;
    72200313 1f08; 72200314 1f09; 72200345 1fbc; 72a00300 1fc8; 72a00301 388; 72a00313 1f18;
    72a00314 1f19; 72e00300 1fca; 72e00301 389; 72e00313 1f28; 72e00314 1f29; 72e00345 1fcc;
    73200300 1fda; 73200301 38a; 73200304 1fd9; 73200306 1fd8; 73200308 3aa; 73200313 1f38;
    73200314 1f39; 73e00300 1ff8; 73e00301 38c; 73e00313 1f48; 73e00314 1f49; 74200314 1fec;
    74a00300 1fea; 74a00301 38e; 74a00304 1fe9; 74a00306 1fe8; 74a00308 3ab; 74a00314 1f59;
    75200300 1ffa; 75200301 38f; 75200313 1f68; 75200314 1f69; 75200345 1ffc; 75800345 1fb4;
    75c00345 1fc4; 76200300 1f70; 76200301 3ac; 76200304 1fb1; 76200306 1fb0; 76200313 1f00;
    76200314 1f01; 76200342 1fb6; 76200345 1fb3; 76a00300 1f72; 76a00301 3ad; 76a00313 1f10;
    76a00314 1f11; 76e00300 1f74; 76e00301 3ae; 76e00313 1f20; 76e00314 1f21; 76e00342 1fc6;
    76e00345 1fc3; 77200300 1f76; 77200301 3af; 77200304 1fd1; 77200306 1fd0; 77200308 3ca;
    77200313 1f30; 77200314 1f31; 77200342 1fd6; 77e00300 1f78; 77e00301 3cc; 77e00313 1f40;
    77e00314 1f41; 78200313 1fe4; 78200314 1fe5; 78a00300 1f7a; 78a00301 3cd; 78a00304 1fe1;
    78a00306 1fe0; 78a00308 3cb; 78a00313 1f50; 78a00314 1f51; 78a00342 1fe6; 79200300 1f7c;
    79200301 3ce; 79200313 1f60; 79200314 1f61; 79200342 1ff6; 79200345 1ff3; 79400300 1fd2;
    79400301 390; 79400342 1fd7; 79600300 1fe2; 79600301 3b0; 79600342 1fe7; 79c00345 1ff4;
    7a400301 3d3; 7a400308 3d4; 80c00308 407; 82000306 4d0; 82000308 4d2; 82600301 403;
    82a00300 400; 82a00306 4d6; 82a00308 401; 82c00306 4c1; 82c00308 4dc; 82e00308 4de;
    83000300 40d; 83000304 4e2; 83000306 419; 83000308 4e4; 83400301 40c; 83c00308 4e6;
    84600304 4ee; 84600306 40e; 84600308 4f0; 8460030b 4f2; 84e00308 4f4; 85600308 4f8;
    85a00308 4ec; 86000306 4d1; 86000308 4d3; 86600301 453; 86a00300 450; 86a00306 4d7;
    86a00308 451; 86c00306 4c2; 86c00308 4dd; 86e00308 4df; 87000300 45d; 87000304 4e3;
    87000306 439; 87000308 4e5; 87400301 45c; 87c00308 4e7; 88600304 4ef; 88600306 45e;
    88600308 4f1; 8860030b 4f3; 88e00308 4f5; 89600308 4f9; 89a00308 4ed; 8ac00308 457;
    8e80030f 476; 8ea0030f 477; 9b000308 4da; 9b200308 4db; 9d000308 4ea; 9d200308 4eb;
    c4e00653 622; c4e00654 623; c4e00655 625; c9000654 624; c9400654 626; d8200654 6c2;
    da400654 6d3; daa00654 6c0; 12500093c 929; 12600093c 931; 12660093c 934; 138e009be 9cb;
    138e009d7 9cc; 168e00b3e b4b; 168e00b56 b48; 168e00b57 b4c; 172400bd7 b94; 178c00bbe bca;
    178c00bd7 bcc; 178e00bbe bcb; 188c00c56 c48; 197e00cd5 cc0; 198c00cc2 cca; 198c00cd5 cc7;
    198c00cd6 cc8; 199400cd5 ccb; 1a8c00d3e d4a; 1a8c00d57 d4c; 1a8e00d3e d4b; 1bb200dca dda;
    1bb200dcf ddc; 1bb200ddf dde; 1bb800dca ddd; 204a0102e 1026; 360a01b35 1b06; 360e01b35 1b08;
    361201b35 1b0a; 361601b35 1b0c; 361a01b35 1b0e; 362201b35 1b12; 367401b35 1b3b;
    367801b35 1b3d; 367c01b35 1b40; 367e01b35 1b41; 368401b35 1b43; 3c6c00304 1e38;
    3c6e00304 1e39; 3cb400304 1e5c; 3cb600304 1e5d; 3cc400307 1e68; 3cc600307 1e69;
    3d4000302 1eac; 3d4000306 1eb6; 3d4200302 1ead; 3d4200306 1eb7; 3d7000302 1ec6;
    3d7200302 1ec7; 3d9800302 1ed8; 3d9a00302 1ed9; 3e0000300 1f02; 3e0000301 1f04;
    3e0000342 1f06; 3e0000345 1f80; 3e0200300 1f03; 3e0200301 1f05; 3e0200342 1f07;
    3e0200345 1f81; 3e0400345 1f82; 3e0600345 1f83; 3e0800345 1f84; 3e0a00345 1f85;
    3e0c00345 1f86; 3e0e00345 1f87; 3e1000300 1f0a; 3e1000301 1f0c; 3e1000342 1f0e;
    3e1000345 1f88; 3e1200300 1f0b; 3e1200301 1f0d; 3e1200342 1f0f; 3e1200345 1f89;
    3e1400345 1f8a; 3e1600345 1f8b; 3e1800345 1f8c; 3e1a00345 1f8d; 3e1c00345 1f8e;
    3e1e00345 1f8f; 3e2000300 1f12; 3e2000301 1f14; 3e2200300 1f13; 3e2200301 1f15;
    3e3000300 1f1a; 3e3000301 1f1c; 3e3200300 1f1b; 3e3200301 1f1d; 3e4000300 1f22;
    3e4000301 1f24; 3e4000342 1f26; 3e4000345 1f90; 3e4200300 1f23; 3e4200301 1f25;
    3e4200342 1f27; 3e4200345 1f91; 3e4400345 1f92; 3e4600345 1f93; 3e4800345 1f94;
    3e4a00345 1f95; 3e4c00345 1f96; 3e4e00345 1f97; 3e5000300 1f2a; 3e5000301 1f2c;
    3e5000342 1f2e; 3e5000345 1f98; 3e5200300 1f2b; 3e5200301 1f2d; 3e5200342 1f2f;
    3e5200345 1f99; 3e5400345 1f9a; 3e5600345 1f9b; 3e5800345 1f9c; 3e5a00345 1f9d;
    3e5c00345 1f9e; 3e5e00345 1f9f; 3e6000300 1f32; 3e6000301 1f34; 3e6000342 1f36;
    3e6200300 1f33; 3e6200301 1f35; 3e6200342 1f37; 3e7000300 1f3a; 3e7000301 1f3c;
    3e7000342 1f3e; 3e7200300 1f3b; 3e7200301 1f3d; 3e7200342 1f3f; 3e8000300 1f42;
    3e8000301 1f44; 3e8200300 1f43; 3e8200301 1f45; 3e9000300 1f4a; 3e9000301 1f4c;
    3e9200300 1f4b; 3e9200301 1f4d; 3ea000300 1f52; 3ea000301 1f54; 3ea000342 1f56;
    3ea200300 1f53; 3ea200301 1f55; 3ea200342 1f57; 3eb200300 1f5b; 3eb200301 1f5d;
    3eb200342 1f5f; 3ec000300 1f62; 3ec000301 1f64; 3ec000342 1f66; 3ec000345 1fa0;
    3ec200300 1f63; 3ec200301 1f65; 3ec200342 1f67; 3ec200345 1fa1; 3ec400345 1fa2;
    3ec600345 1fa3; 3ec800345 1fa4; 3eca00345 1fa5; 3ecc00345 1fa6; 3ece00345 1fa7;
    3ed000300 1f6a; 3ed000301 1f6c; 3ed000342 1f6e; 3ed000345 1fa8; 3ed200300 1f6b;
    3ed200301 1f6d; 3ed200342 1f6f; 3ed200345 1fa9; 3ed400345 1faa; 3ed600345 1fab;
    3ed800345 1fac; 3eda00345 1fad; 3edc00345 1fae; 3ede00345 1faf; 3ee000345 1fb2;
    3ee800345 1fc2; 3ef800345 1ff2; 3f6c00345 1fb7; 3f7e00300 1fcd; 3f7e00301 1fce;
    3f7e00342 1fcf; 3f8c00345 1fc7; 3fec00345 1ff7; 3ffc00300 1fdd; 3ffc00301 1fde;
    3ffc00342 1fdf; 432000338 219a; 432400338 219b; 432800338 21ae; 43a000338 21cd;
    43a400338 21cf; 43a800338 21ce; 440600338 2204; 441000338 2209; 441600338 220c;
    444600338 2224; 444a00338 2226; 447800338 2241; 448600338 2244; 448a00338 2247;
    449000338 2249; 449a00338 226d; 44c200338 2262; 44c800338 2270; 44ca00338 2271;
    44e400338 2274; 44e600338 2275; 44ec00338 2278; 44ee00338 2279; 44f400338 2280;
    44f600338 2281; 44f800338 22e0; 44fa00338 22e1; 450400338 2284; 450600338 2285;
    450c00338 2288; 450e00338 2289; 452200338 22e2; 452400338 22e3; 454400338 22ac;
    455000338 22ad; 455200338 22ae; 455600338 22af; 456400338 22ea; 456600338 22eb;
    456800338 22ec; 456a00338 22ed; 608c03099 3094; 609603099 304c; 609a03099 304e;
    609e03099 3050; 60a203099 3052; 60a603099 3054; 60aa03099 3056; 60ae03099 3058;
    60b203099 305a; 60b603099 305c; 60ba03099 305e; 60be03099 3060; 60c203099 3062;
    60c803099 3065; 60cc03099 3067; 60d003099 3069; 60de03099 3070; 60de0309a 3071;
    60e403099 3073; 60e40309a 3074; 60ea03099 3076; 60ea0309a 3077; 60f003099 3079;
    60f00309a 307a; 60f603099 307c; 60f60309a 307d; 613a03099 309e; 614c03099 30f4;
    615603099 30ac; 615a03099 30ae; 615e03099 30b0; 616203099 30b2; 616603099 30b4;
    616a03099 30b6; 616e03099 30b8; 617203099 30ba; 617603099 30bc; 617a03099 30be;
    617e03099 30c0; 618203099 30c2; 618803099 30c5; 618c03099 30c7; 619003099 30c9;
    619e03099 30d0; 619e0309a 30d1; 61a403099 30d3; 61a40309a 30d4; 61aa03099 30d6;
    61aa0309a 30d7; 61b003099 30d9; 61b00309a 30da; 61b603099 30dc; 61b60309a 30dd;
    61de03099 30f7; 61e003099 30f8; 61e203099 30f9; 61e403099 30fa; 61fa03099 30fe;
    20ba400307 105c9; 20bb400307 105e4; 22132110ba 1109a; 22136110ba 1109c; 2214a110ba 110ab;
    2226211127 1112e; 2226411127 1112f; 2268e1133e 1134b; 2268e11357 1134c; 22704113c9 11383;
    22708113bb 11385; 22716113c2 1138e; 22720113c9 11391; 22784113b8 113c7; 22784113c2 113c5;
    22784113c9 113c8; 22972114b0 114bc; 22972114ba 114bb; 22972114bd 114be; 22b70115af 115ba;
    22b72115af 115bb; 2326a11930 11938; 2c23c1611e 16121; 2c23c1611f 16123; 2c23c16120 16125;
    2c23c16129 16122; 2c2421611f 16126; 2c24216120 16128; 2c2441611f 16127; 2c2521611f 16124;
    2dac616d67 16d69; 2dace16d67 16d68; 2dad216d67 16d6a"

/-- The combining class from each point on. -/
def combiningClasses : CodeMap := .ofText "
    0 0 300 e6 315 e8 316 dc 31a e8 31b d8 31c dc 321 ca 323 dc 327 ca 329 dc 334 1 339 dc 33d e6
    345 f0 346 e6 347 dc 34a e6 34d dc 34f 0 350 e6 353 dc 357 e6 358 e8 359 dc 35b e6 35c e9 35d
    ea 35f e9 360 ea 362 e9 363 e6 370 0 483 e6 488 0 591 dc 592 e6 596 dc 597 e6 59a de 59b dc
    59c e6 5a2 dc 5a8 e6 5aa dc 5ab e6 5ad de 5ae e4 5af e6 5b0 a 5b1 b 5b2 c 5b3 d 5b4 e 5b5 f
    5b6 10 5b7 11 5b8 12 5b9 13 5bb 14 5bc 15 5bd 16 5be 0 5bf 17 5c0 0 5c1 18 5c2 19 5c3 0 5c4
    e6 5c5 dc 5c6 0 5c7 12 5c8 0 610 e6 618 1e 619 1f 61a 20 61b 0 64b 1b 64c 1c 64d 1d 64e 1e
    64f 1f 650 20 651 21 652 22 653 e6 655 dc 657 e6 65c dc 65d e6 65f dc 660 0 670 23 671 0 6d6
    e6 6dd 0 6df e6 6e3 dc 6e4 e6 6e5 0 6e7 e6 6e9 0 6ea dc 6eb e6 6ed dc 6ee 0 711 24 712 0 730
    e6 731 dc 732 e6 734 dc 735 e6 737 dc 73a e6 73b dc 73d e6 73e dc 73f e6 742 dc 743 e6 744 dc
    745 e6 746 dc 747 e6 748 dc 749 e6 74b 0 7eb e6 7f2 dc 7f3 e6 7f4 0 7fd dc 7fe 0 816 e6 81a 0
    81b e6 824 0 825 e6 828 0 829 e6 82e 0 859 dc 85c 0 898 e6 899 dc 89c e6 8a0 0 8ca e6 8cf dc
    8d4 e6 8e2 0 8e3 dc 8e4 e6 8e6 dc 8e7 e6 8e9 dc 8ea e6 8ed dc 8f0 1b 8f1 1c 8f2 1d 8f3 e6 8f6
    dc 8f7 e6 8f9 dc 8fb e6 900 0 93c 7 93d 0 94d 9 94e 0 951 e6 952 dc 953 e6 955 0 9bc 7 9bd 0
    9cd 9 9ce 0 9fe e6 9ff 0 a3c 7 a3d 0 a4d 9 a4e 0 abc 7 abd 0 acd 9 ace 0 b3c 7 b3d 0 b4d 9
    b4e 0 bcd 9 bce 0 c3c 7 c3d 0 c4d 9 c4e 0 c55 54 c56 5b c57 0 cbc 7 cbd 0 ccd 9 cce 0 d3b 9
    d3d 0 d4d 9 d4e 0 dca 9 dcb 0 e38 67 e3a 9 e3b 0 e48 6b e4c 0 eb8 76 eba 9 ebb 0 ec8 7a ecc 0
    f18 dc f1a 0 f35 dc f36 0 f37 dc f38 0 f39 d8 f3a 0 f71 81 f72 82 f73 0 f74 84 f75 0 f7a 82
    f7e 0 f80 82 f81 0 f82 e6 f84 9 f85 0 f86 e6 f88 0 fc6 dc fc7 0 1037 7 1038 0 1039 9 103b 0
    108d dc 108e 0 135d e6 1360 0 1714 9 1716 0 1734 9 1735 0 17d2 9 17d3 0 17dd e6 17de 0 18a9
    e4 18aa 0 1939 de 193a e6 193b dc 193c 0 1a17 e6 1a18 dc 1a19 0 1a60 9 1a61 0 1a75 e6 1a7d 0
    1a7f dc 1a80 0 1ab0 e6 1ab5 dc 1abb e6 1abd dc 1abe 0 1abf dc 1ac1 e6 1ac3 dc 1ac5 e6 1aca dc
    1acb e6 1acf 0 1b34 7 1b35 0 1b44 9 1b45 0 1b6b e6 1b6c dc 1b6d e6 1b74 0 1baa 9 1bac 0 1be6
    7 1be7 0 1bf2 9 1bf4 0 1c37 7 1c38 0 1cd0 e6 1cd3 0 1cd4 1 1cd5 dc 1cda e6 1cdc dc 1ce0 e6
    1ce1 0 1ce2 1 1ce9 0 1ced dc 1cee 0 1cf4 e6 1cf5 0 1cf8 e6 1cfa 0 1dc0 e6 1dc2 dc 1dc3 e6
    1dca dc 1dcb e6 1dcd ea 1dce d6 1dcf dc 1dd0 ca 1dd1 e6 1df6 e8 1df7 e4 1df9 dc 1dfa da 1dfb
    e6 1dfc e9 1dfd dc 1dfe e6 1dff dc 1e00 0 20d0 e6 20d2 1 20d4 e6 20d8 1 20db e6 20dd 0 20e1
    e6 20e2 0 20e5 1 20e7 e6 20e8 dc 20e9 e6 20ea 1 20ec dc 20f0 e6 20f1 0 2cef e6 2cf2 0 2d7f 9
    2d80 0 2de0 e6 2e00 0 302a da 302b e4 302c e8 302d de 302e e0 3030 0 3099 8 309b 0 a66f e6
    a670 0 a674 e6 a67e 0 a69e e6 a6a0 0 a6f0 e6 a6f2 0 a806 9 a807 0 a82c 9 a82d 0 a8c4 9 a8c5 0
    a8e0 e6 a8f2 0 a92b dc a92e 0 a953 9 a954 0 a9b3 7 a9b4 0 a9c0 9 a9c1 0 aab0 e6 aab1 0 aab2
    e6 aab4 dc aab5 0 aab7 e6 aab9 0 aabe e6 aac0 0 aac1 e6 aac2 0 aaf6 9 aaf7 0 abed 9 abee 0
    fb1e 1a fb1f 0 fe20 e6 fe27 dc fe2e e6 fe30 0 101fd dc 101fe 0 102e0 dc 102e1 0 10376 e6
    1037b 0 10a0d dc 10a0e 0 10a0f e6 10a10 0 10a38 e6 10a39 1 10a3a dc 10a3b 0 10a3f 9 10a40 0
    10ae5 e6 10ae6 dc 10ae7 0 10d24 e6 10d28 0 10eab e6 10ead 0 10efd dc 10f00 0 10f46 dc 10f48
    e6 10f4b dc 10f4c e6 10f4d dc 10f51 0 10f82 e6 10f83 dc 10f84 e6 10f85 dc 10f86 0 11046 9
    11047 0 11070 9 11071 0 1107f 9 11080 0 110b9 9 110ba 7 110bb 0 11100 e6 11103 0 11133 9
    11135 0 11173 7 11174 0 111c0 9 111c1 0 111ca 7 111cb 0 11235 9 11236 7 11237 0 112e9 7 112ea
    9 112eb 0 1133b 7 1133d 0 1134d 9 1134e 0 11366 e6 1136d 0 11370 e6 11375 0 11442 9 11443 0
    11446 7 11447 0 1145e e6 1145f 0 114c2 9 114c3 7 114c4 0 115bf 9 115c0 7 115c1 0 1163f 9
    11640 0 116b6 9 116b7 7 116b8 0 1172b 9 1172c 0 11839 9 1183a 7 1183b 0 1193d 9 1193f 0 11943
    7 11944 0 119e0 9 119e1 0 11a34 9 11a35 0 11a47 9 11a48 0 11a99 9 11a9a 0 11c3f 9 11c40 0
    11d42 7 11d43 0 11d44 9 11d46 0 11d97 9 11d98 0 11f41 9 11f43 0 16af0 1 16af5 0 16b30 e6
    16b37 0 16ff0 6 16ff2 0 1bc9e 1 1bc9f 0 1d165 d8 1d167 1 1d16a 0 1d16d e2 1d16e d8 1d173 0
    1d17b dc 1d183 0 1d185 e6 1d18a dc 1d18c 0 1d1aa e6 1d1ae 0 1d242 e6 1d245 0 1e000 e6 1e007 0
    1e008 e6 1e019 0 1e01b e6 1e022 0 1e023 e6 1e025 0 1e026 e6 1e02b 0 1e08f e6 1e090 0 1e130 e6
    1e137 0 1e2ae e6 1e2af 0 1e2ec e6 1e2f0 0 1e4ec e8 1e4ee dc 1e4ef e6 1e4f0 0 1e8d0 dc 1e8d7 0
    1e944 e6 1e94a 7 1e94b 0"

end PagePrep.Text
