import SeedVault.Text.CodeTable

/-!
# Characters in domain names

The tables behind the check of domain names: which characters are refused or dropped, which are
replaced by others than their folded compatibility form, and the classes by which writing direction
and joining are judged.
-/

namespace SeedVault.Domain

open Text

/-- The characters that no domain name may hold. -/
def refusedTable : List String :=
  ["80 9f;378 379;380 383;38b;38d;3a2;530;557 558;58b 58c;590;5c8 5cf;5eb 5ee;5f5 605;61c;6dd;",
   "70e 70f;74b 74c;7b2 7bf;7fb 7fc;82e 82f;83f;85c 85d;85f;86b 86f;890 896;8e2;984;98d 98e;",
   "991 992;9a9;9b1;9b3 9b5;9ba 9bb;9c5 9c6;9c9 9ca;9cf 9d6;9d8 9db;9de;9e4 9e5;9ff a00;a04;",
   "a0b a0e;a11 a12;a29;a31;a34;a37;a3a a3b;a3d;a43 a46;a49 a4a;a4e a50;a52 a58;a5d;a5f a65;",
   "a77 a80;a84;a8e;a92;aa9;ab1;ab4;aba abb;ac6;aca;ace acf;ad1 adf;ae4 ae5;af2 af8;b00;b04;",
   "b0d b0e;b11 b12;b29;b31;b34;b3a b3b;b45 b46;b49 b4a;b4e b54;b58 b5b;b5e;b64 b65;b78 b81;b84;",
   "b8b b8d;b91;b96 b98;b9b;b9d;ba0 ba2;ba5 ba7;bab bad;bba bbd;bc3 bc5;bc9;bce bcf;bd1 bd6;",
   "bd8 be5;bfb bff;c0d;c11;c29;c3a c3b;c45;c49;c4e c54;c57;c5b;c5e c5f;c64 c65;c70 c76;c8d;c91;",
   "ca9;cb4;cba cbb;cc5;cc9;cce cd4;cd7 cdb;cdf;ce4 ce5;cf0;cf4 cff;d0d;d11;d45;d49;d50 d53;",
   "d64 d65;d80;d84;d97 d99;db2;dbc;dbe dbf;dc7 dc9;dcb dce;dd5;dd7;de0 de5;df0 df1;df5 e00;",
   "e3b e3e;e5c e80;e83;e85;e8b;ea4;ea6;ebe ebf;ec5;ec7;ecf;eda edb;ee0 eff;f48;f6d f70;f98;fbd;",
   "fcd;fdb fff;10c6;10c8 10cc;10ce 10cf;1249;124e 124f;1257;1259;125e 125f;1289;128e 128f;12b1;",
   "12b6 12b7;12bf;12c1;12c6 12c7;12d7;1311;1316 1317;135b 135c;137d 137f;139a 139f;13f6 13f7;",
   "13fe 13ff;1680;169d 169f;16f9 16ff;1716 171e;1737 173f;1754 175f;176d;1771;1774 177f;",
   "17de 17df;17ea 17ef;17fa 17ff;181a 181f;1879 187f;18ab 18af;18f6 18ff;191f;192c 192f;",
   "193c 193f;1941 1943;196e 196f;1975 197f;19ac 19af;19ca 19cf;19db 19dd;1a1c 1a1d;1a5f;",
   "1a7d 1a7e;1a8a 1a8f;1a9a 1a9f;1aae 1aaf;1ade 1adf;1aec 1aff;1b4d;1bf4 1bfb;1c38 1c3a;",
   "1c4a 1c4c;1c8b 1c8f;1cbb 1cbc;1cc8 1ccf;1cfb 1cff;1f16 1f17;1f1e 1f1f;1f46 1f47;1f4e 1f4f;",
   "1f58;1f5a;1f5c;1f5e;1f7e 1f7f;1fb5;1fc5;1fd4 1fd5;1fdc;1ff0 1ff1;1ff5;1fff;200e 200f;",
   "2024 2026;2028 202e;2065 2069;2072 2073;208f;209d 209f;20c2 20cf;20f1 20ff;218c 218f;",
   "242a 243f;244b 245f;2488 249b;2b74 2b75;2cf4 2cf8;2d26;2d28 2d2c;2d2e 2d2f;2d68 2d6e;",
   "2d71 2d7e;2d97 2d9f;2da7;2daf;2db7;2dbf;2dc7;2dcf;2dd7;2ddf;2e5e 2e7f;2e9a;2ef4 2eff;",
   "2fd6 2fff;3040;3097 3098;3100 3104;3130;318f;31e6 31ef;321f;33c2;33c7;33d8;a48d a48f;",
   "a4c7 a4cf;a62c a63f;a6f8 a6ff;a7dd a7f0;a82d a82f;a83a a83f;a878 a87f;a8c6 a8cd;a8da a8df;",
   "a954 a95e;a97d a97f;a9ce;a9da a9dd;a9ff;aa37 aa3f;aa4e aa4f;aa5a aa5b;aac3 aada;aaf7 ab00;",
   "ab07 ab08;ab0f ab10;ab17 ab1f;ab27;ab2f;ab6c ab6f;abee abef;abfa abff;d7a4 d7af;d7c7 d7ca;",
   "d7fc f8ff;fa6e fa6f;fada faff;fb07 fb12;fb18 fb1c;fb37;fb3d;fb3f;fb42;fb45;fdd0 fdef;fe12;",
   "fe19 fe1f;fe30;fe52 fe53;fe67;fe6c fe6f;fe75;fefd fefe;ff00;ffbf ffc1;ffc8 ffc9;ffd0 ffd1;",
   "ffd8 ffd9;ffdd ffdf;ffe7;ffef ffff;1000c;10027;1003b;1003e;1004e 1004f;1005e 1007f;",
   "100fb 100ff;10103 10106;10134 10136;1018f;1019d 1019f;101a1 101cf;101fe 1027f;1029d 1029f;",
   "102d1 102df;102fc 102ff;10324 1032c;1034b 1034f;1037b 1037f;1039e;103c4 103c7;103d6 103ff;",
   "1049e 1049f;104aa 104af;104d4 104d7;104fc 104ff;10528 1052f;10564 1056e;1057b;1058b;10593;",
   "10596;105a2;105b2;105ba;105bd 105bf;105f4 105ff;10737 1073f;10756 1075f;10768 1077f;10786;",
   "107b1;107bb 107ff;10806 10807;10809;10836;10839 1083b;1083d 1083e;10856;1089f 108a6;",
   "108b0 108df;108f3;108f6 108fa;1091c 1091e;1093a 1093e;1095a 1097f;109b8 109bb;109d0 109d1;",
   "10a04;10a07 10a0b;10a14;10a18;10a36 10a37;10a3b 10a3e;10a49 10a4f;10a59 10a5f;10aa0 10abf;",
   "10ae7 10aea;10af7 10aff;10b36 10b38;10b56 10b57;10b73 10b77;10b92 10b98;10b9d 10ba8;",
   "10bb0 10bff;10c49 10c7f;10cb3 10cbf;10cf3 10cf9;10d28 10d2f;10d3a 10d3f;10d66 10d68;",
   "10d86 10d8d;10d90 10e5f;10e7f;10eaa;10eae 10eaf;10eb2 10ec1;10ec8 10ecf;10ed9 10ef9;",
   "10f28 10f2f;10f5a 10f6f;10f8a 10faf;10fcc 10fdf;10ff7 10fff;1104e 11051;11076 1107e;110bd;",
   "110c3 110cf;110e9 110ef;110fa 110ff;11135;11148 1114f;11177 1117f;111e0;111f5 111ff;11212;",
   "11242 1127f;11287;11289;1128e;1129e;112aa 112af;112eb 112ef;112fa 112ff;11304;1130d 1130e;",
   "11311 11312;11329;11331;11334;1133a;11345 11346;11349 1134a;1134e 1134f;11351 11356;",
   "11358 1135c;11364 11365;1136d 1136f;11375 1137f;1138a;1138c 1138d;1138f;113b6;113c1;",
   "113c3 113c4;113c6;113cb;113d6;113d9 113e0;113e3 113ff;1145c;11462 1147f;114c8 114cf;",
   "114da 1157f;115b6 115b7;115de 115ff;11645 1164f;1165a 1165f;1166d 1167f;116ba 116bf;",
   "116ca 116cf;116e4 116ff;1171b 1171c;1172c 1172f;11747 117ff;1183c 1189f;118f3 118fe;",
   "11907 11908;1190a 1190b;11914;11917;11936;11939 1193a;11947 1194f;1195a 1199f;119a8 119a9;",
   "119d8 119d9;119e5 119ff;11a48 11a4f;11aa3 11aaf;11af9 11aff;11b0a 11b5f;11b68 11bbf;",
   "11be2 11bef;11bfa 11bff;11c09;11c37;11c46 11c4f;11c6d 11c6f;11c90 11c91;11ca8;11cb7 11cff;",
   "11d07;11d0a;11d37 11d39;11d3b;11d3e;11d48 11d4f;11d5a 11d5f;11d66;11d69;11d8f;11d92;",
   "11d99 11d9f;11daa 11daf;11ddc 11ddf;11dea 11edf;11ef9 11eff;11f11;11f3b 11f3d;11f5b 11faf;",
   "11fb1 11fbf;11ff2 11ffe;1239a 123ff;1246f;12475 1247f;12544 12f8f;12ff3 12fff;13430 1343f;",
   "13456 1345f;143fb 143ff;14647 160ff;1613a 167ff;16a39 16a3f;16a5f;16a6a 16a6d;16abf;",
   "16aca 16acf;16aee 16aef;16af6 16aff;16b46 16b4f;16b5a;16b62;16b78 16b7c;16b90 16d3f;",
   "16d7a 16e3f;16e9b 16e9f;16eb9 16eba;16ed4 16eff;16f4b 16f4e;16f88 16f8e;16fa0 16fdf;",
   "16fe5 16fef;16ff7 16fff;18cd6 18cfe;18d1f 18d7f;18df3 1afef;1aff4;1affc;1afff;1b123 1b131;",
   "1b133 1b14f;1b153 1b154;1b156 1b163;1b168 1b16f;1b2fc 1bbff;1bc6b 1bc6f;1bc7d 1bc7f;",
   "1bc89 1bc8f;1bc9a 1bc9b;1bca4 1cbff;1ccfd 1ccff;1ceb4 1ceb9;1ced1 1cedf;1cef1 1ceff;",
   "1cf2e 1cf2f;1cf47 1cf4f;1cfc4 1cfff;1d0f6 1d0ff;1d127 1d128;1d1eb 1d1ff;1d246 1d2bf;",
   "1d2d4 1d2df;1d2f4 1d2ff;1d357 1d35f;1d379 1d3ff;1d455;1d49d;1d4a0 1d4a1;1d4a3 1d4a4;",
   "1d4a7 1d4a8;1d4ad;1d4ba;1d4bc;1d4c4;1d506;1d50b 1d50c;1d515;1d51d;1d53a;1d53f;1d545;",
   "1d547 1d549;1d551;1d6a6 1d6a7;1d7cc 1d7cd;1da8c 1da9a;1daa0;1dab0 1deff;1df1f 1df24;",
   "1df2b 1dfff;1e007;1e019 1e01a;1e022;1e025;1e02b 1e02f;1e06e 1e08e;1e090 1e0ff;1e12d 1e12f;",
   "1e13e 1e13f;1e14a 1e14d;1e150 1e28f;1e2af 1e2bf;1e2fa 1e2fe;1e300 1e4cf;1e4fa 1e5cf;",
   "1e5fb 1e5fe;1e600 1e6bf;1e6df;1e6f6 1e6fd;1e700 1e7df;1e7e7;1e7ec;1e7ef;1e7ff;1e8c5 1e8c6;",
   "1e8d7 1e8ff;1e94c 1e94f;1e95a 1e95d;1e960 1ec70;1ecb5 1ed00;1ed3e 1edff;1ee04;1ee20;1ee23;",
   "1ee25 1ee26;1ee28;1ee33;1ee38;1ee3a;1ee3c 1ee41;1ee43 1ee46;1ee48;1ee4a;1ee4c;1ee50;1ee53;",
   "1ee55 1ee56;1ee58;1ee5a;1ee5c;1ee5e;1ee60;1ee63;1ee65 1ee66;1ee6b;1ee73;1ee78;1ee7d;1ee7f;",
   "1ee8a;1ee9c 1eea0;1eea4;1eeaa;1eebc 1eeef;1eef2 1efff;1f02c 1f02f;1f094 1f09f;1f0af 1f0b0;",
   "1f0c0;1f0d0;1f0f6 1f100;1f1ae 1f1e5;1f203 1f20f;1f23c 1f23f;1f249 1f24f;1f252 1f25f;",
   "1f266 1f2ff;1f6d9 1f6db;1f6ed 1f6ef;1f6fd 1f6ff;1f7da 1f7df;1f7ec 1f7ef;1f7f1 1f7ff;",
   "1f80c 1f80f;1f848 1f84f;1f85a 1f85f;1f888 1f88f;1f8ae 1f8af;1f8bc 1f8bf;1f8c2 1f8cf;",
   "1f8d9 1f8ff;1fa58 1fa5f;1fa6e 1fa6f;1fa7d 1fa7f;1fa8b 1fa8d;1fac7;1fac9 1facc;1fadd 1fade;",
   "1faeb 1faee;1faf9 1faff;1fb93;1fbfb 1ffff;2a6e0 2a6ff;2b81e 2b81f;2ceae 2ceaf;2ebe1 2ebef;",
   "2ee5e 2f7ff;2fa1e 2ffff;3134b 3134f;3347a e00ff;e01f0 10ffff;"]

/-- The characters that are dropped. -/
def droppedTable : List String :=
  ["ad;34f;115f 1160;17b4 17b5;180b 180f;200b;2060 2064;206a 206f;3164;fe00 fe0f;feff;ffa0;",
   "1bca0 1bca3;1d173 1d17a;e0100 e01ef;"]

/-- Runs of characters whose replacement is one character, not their folded form: the first, the
last, the distance of neighbours, and the replacement of the first. -/
def replacedRunTable : List String :=
  ["345 345 1 3b9;3f2 3f2 1 3c3;13a0 13f5 1 13a0;13f8 13fd 1 13f0;1c80 1c80 1 432;",
   "1c81 1c81 1 434;1c82 1c82 1 43e;1c83 1c84 1 441;1c85 1c85 1 442;1c86 1c86 1 44a;",
   "1c87 1c87 1 463;1c88 1c88 1 a64b;3002 3002 1 2e;a7ce a7ce 1 a7cf;a7d2 a7d4 2 a7d3;",
   "a7f1 a7f1 1 73;ab70 abbf 1 13a0;ff61 ff61 1 2e;16ea0 16eb8 1 16ebb;1ccd6 1ccef 1 61;",
   "1ccf0 1ccf9 1 30;1d6d3 1d6d3 1 3c3;1d70d 1d70d 1 3c3;1d747 1d747 1 3c3;1d781 1d781 1 3c3;",
   "1d7bb 1d7bb 1 3c3;"]

/-- Characters whose replacement is more than one character, and not their folded form. -/
def replacedTable : List String :=
  ["37a 20 3b9;1f80 1f00 3b9;1f81 1f01 3b9;1f82 1f02 3b9;1f83 1f03 3b9;1f84 1f04 3b9;",
   "1f85 1f05 3b9;1f86 1f06 3b9;1f87 1f07 3b9;1f88 1f00 3b9;1f89 1f01 3b9;1f8a 1f02 3b9;",
   "1f8b 1f03 3b9;1f8c 1f04 3b9;1f8d 1f05 3b9;1f8e 1f06 3b9;1f8f 1f07 3b9;1f90 1f20 3b9;",
   "1f91 1f21 3b9;1f92 1f22 3b9;1f93 1f23 3b9;1f94 1f24 3b9;1f95 1f25 3b9;1f96 1f26 3b9;",
   "1f97 1f27 3b9;1f98 1f20 3b9;1f99 1f21 3b9;1f9a 1f22 3b9;1f9b 1f23 3b9;1f9c 1f24 3b9;",
   "1f9d 1f25 3b9;1f9e 1f26 3b9;1f9f 1f27 3b9;1fa0 1f60 3b9;1fa1 1f61 3b9;1fa2 1f62 3b9;",
   "1fa3 1f63 3b9;1fa4 1f64 3b9;1fa5 1f65 3b9;1fa6 1f66 3b9;1fa7 1f67 3b9;1fa8 1f60 3b9;",
   "1fa9 1f61 3b9;1faa 1f62 3b9;1fab 1f63 3b9;1fac 1f64 3b9;1fad 1f65 3b9;1fae 1f66 3b9;",
   "1faf 1f67 3b9;1fb2 1f70 3b9;1fb3 3b1 3b9;1fb4 3ac 3b9;1fb7 1fb6 3b9;1fbc 3b1 3b9;",
   "1fc2 1f74 3b9;1fc3 3b7 3b9;1fc4 3ae 3b9;1fc7 1fc6 3b9;1fcc 3b7 3b9;1ff2 1f7c 3b9;",
   "1ff3 3c9 3b9;1ff4 3ce 3b9;1ff7 1ff6 3b9;1ffc 3c9 3b9;"]

/-- The general category Mark. -/
def markTable : List String :=
  ["300 36f;483 489;591 5bd;5bf;5c1 5c2;5c4 5c5;5c7;610 61a;64b 65f;670;6d6 6dc;6df 6e4;6e7 6e8;",
   "6ea 6ed;711;730 74a;7a6 7b0;7eb 7f3;7fd;816 819;81b 823;825 827;829 82d;859 85b;898 89f;",
   "8ca 8e1;8e3 903;93a 93c;93e 94f;951 957;962 963;981 983;9bc;9be 9c4;9c7 9c8;9cb 9cd;9d7;",
   "9e2 9e3;9fe;a01 a03;a3c;a3e a42;a47 a48;a4b a4d;a51;a70 a71;a75;a81 a83;abc;abe ac5;ac7 ac9;",
   "acb acd;ae2 ae3;afa aff;b01 b03;b3c;b3e b44;b47 b48;b4b b4d;b55 b57;b62 b63;b82;bbe bc2;",
   "bc6 bc8;bca bcd;bd7;c00 c04;c3c;c3e c44;c46 c48;c4a c4d;c55 c56;c62 c63;c81 c83;cbc;cbe cc4;",
   "cc6 cc8;cca ccd;cd5 cd6;ce2 ce3;cf3;d00 d03;d3b d3c;d3e d44;d46 d48;d4a d4d;d57;d62 d63;",
   "d81 d83;dca;dcf dd4;dd6;dd8 ddf;df2 df3;e31;e34 e3a;e47 e4e;eb1;eb4 ebc;ec8 ece;f18 f19;f35;",
   "f37;f39;f3e f3f;f71 f84;f86 f87;f8d f97;f99 fbc;fc6;102b 103e;1056 1059;105e 1060;1062 1064;",
   "1067 106d;1071 1074;1082 108d;108f;109a 109d;135d 135f;1712 1715;1732 1734;1752 1753;",
   "1772 1773;17b4 17d3;17dd;180b 180d;180f;1885 1886;18a9;1920 192b;1930 193b;1a17 1a1b;",
   "1a55 1a5e;1a60 1a7c;1a7f;1ab0 1ace;1b00 1b04;1b34 1b44;1b6b 1b73;1b80 1b82;1ba1 1bad;",
   "1be6 1bf3;1c24 1c37;1cd0 1cd2;1cd4 1ce8;1ced;1cf4;1cf7 1cf9;1dc0 1dff;20d0 20f0;2cef 2cf1;",
   "2d7f;2de0 2dff;302a 302f;3099 309a;a66f a672;a674 a67d;a69e a69f;a6f0 a6f1;a802;a806;a80b;",
   "a823 a827;a82c;a880 a881;a8b4 a8c5;a8e0 a8f1;a8ff;a926 a92d;a947 a953;a980 a983;a9b3 a9c0;",
   "a9e5;aa29 aa36;aa43;aa4c aa4d;aa7b aa7d;aab0;aab2 aab4;aab7 aab8;aabe aabf;aac1;aaeb aaef;",
   "aaf5 aaf6;abe3 abea;abec abed;fb1e;fe00 fe0f;fe20 fe2f;101fd;102e0;10376 1037a;10a01 10a03;",
   "10a05 10a06;10a0c 10a0f;10a38 10a3a;10a3f;10ae5 10ae6;10d24 10d27;10eab 10eac;10efd 10eff;",
   "10f46 10f50;10f82 10f85;11000 11002;11038 11046;11070;11073 11074;1107f 11082;110b0 110ba;",
   "110c2;11100 11102;11127 11134;11145 11146;11173;11180 11182;111b3 111c0;111c9 111cc;",
   "111ce 111cf;1122c 11237;1123e;11241;112df 112ea;11300 11303;1133b 1133c;1133e 11344;",
   "11347 11348;1134b 1134d;11357;11362 11363;11366 1136c;11370 11374;11435 11446;1145e;",
   "114b0 114c3;115af 115b5;115b8 115c0;115dc 115dd;11630 11640;116ab 116b7;1171d 1172b;",
   "1182c 1183a;11930 11935;11937 11938;1193b 1193e;11940;11942 11943;119d1 119d7;119da 119e0;",
   "119e4;11a01 11a0a;11a33 11a39;11a3b 11a3e;11a47;11a51 11a5b;11a8a 11a99;11c2f 11c36;",
   "11c38 11c3f;11c92 11ca7;11ca9 11cb6;11d31 11d36;11d3a;11d3c 11d3d;11d3f 11d45;11d47;",
   "11d8a 11d8e;11d90 11d91;11d93 11d97;11ef3 11ef6;11f00 11f01;11f03;11f34 11f3a;11f3e 11f42;",
   "13440;13447 13455;16af0 16af4;16b30 16b36;16f4f;16f51 16f87;16f8f 16f92;16fe4;16ff0 16ff1;",
   "1bc9d 1bc9e;1cf00 1cf2d;1cf30 1cf46;1d165 1d169;1d16d 1d172;1d17b 1d182;1d185 1d18b;",
   "1d1aa 1d1ad;1d242 1d244;1da00 1da36;1da3b 1da6c;1da75;1da84;1da9b 1da9f;1daa1 1daaf;",
   "1e000 1e006;1e008 1e018;1e01b 1e021;1e023 1e024;1e026 1e02a;1e08f;1e130 1e136;1e2ae;",
   "1e2ec 1e2ef;1e4ec 1e4ef;1e8d0 1e8d6;1e944 1e94a;e0100 e01ef;"]

/-- Runs of one writing-direction class, numbered as in `Direction`; left to right is not listed. -/
def directionTable : List String :=
  ["0 8 9;9 d b;e 1b 9;1c 20 b;21 22 8;23 25 7;26 2a 8;2b 2b 5;2c 2c 6;2d 2d 5;2e 2f 6;30 39 4;",
   "3a 3a 6;3b 40 8;5b 60 8;7b 7e 8;7f 84 9;85 85 b;86 9f 9;a0 a0 6;a1 a1 8;a2 a5 7;a6 a9 8;",
   "ab ac 8;ad ad 9;ae af 8;b0 b1 7;b2 b3 4;b4 b4 8;b6 b8 8;b9 b9 4;bb bf 8;d7 d7 8;f7 f7 8;",
   "2b9 2ba 8;2c2 2cf 8;2d2 2df 8;2e5 2ed 8;2ef 2ff 8;300 36f a;374 375 8;37e 37e 8;384 385 8;",
   "387 387 8;3f6 3f6 8;483 489 a;58a 58a 8;58d 58e 8;58f 58f 7;590 590 1;591 5bd a;5be 5be 1;",
   "5bf 5bf a;5c0 5c0 1;5c1 5c2 a;5c3 5c3 1;5c4 5c5 a;5c6 5c6 1;5c7 5c7 a;5c8 5ff 1;600 605 3;",
   "606 607 8;608 608 2;609 60a 7;60b 60b 2;60c 60c 6;60d 60d 2;60e 60f 8;610 61a a;61b 64a 2;",
   "64b 65f a;660 669 3;66a 66a 7;66b 66c 3;66d 66f 2;670 670 a;671 6d5 2;6d6 6dc a;6dd 6dd 3;",
   "6de 6de 8;6df 6e4 a;6e5 6e6 2;6e7 6e8 a;6e9 6e9 8;6ea 6ed a;6ee 6ef 2;6f0 6f9 4;6fa 710 2;",
   "711 711 a;712 72f 2;730 74a a;74b 7a5 2;7a6 7b0 a;7b1 7bf 2;7c0 7ea 1;7eb 7f3 a;7f4 7f5 1;",
   "7f6 7f9 8;7fa 7fc 1;7fd 7fd a;7fe 815 1;816 819 a;81a 81a 1;81b 823 a;824 824 1;825 827 a;",
   "828 828 1;829 82d a;82e 858 1;859 85b a;85c 85f 1;860 88f 2;890 891 3;892 897 2;898 89f a;",
   "8a0 8c9 2;8ca 8e1 a;8e2 8e2 3;8e3 902 a;93a 93a a;93c 93c a;941 948 a;94d 94d a;951 957 a;",
   "962 963 a;981 981 a;9bc 9bc a;9c1 9c4 a;9cd 9cd a;9e2 9e3 a;9f2 9f3 7;9fb 9fb 7;9fe 9fe a;",
   "a01 a02 a;a3c a3c a;a41 a42 a;a47 a48 a;a4b a4d a;a51 a51 a;a70 a71 a;a75 a75 a;a81 a82 a;",
   "abc abc a;ac1 ac5 a;ac7 ac8 a;acd acd a;ae2 ae3 a;af1 af1 7;afa aff a;b01 b01 a;b3c b3c a;",
   "b3f b3f a;b41 b44 a;b4d b4d a;b55 b56 a;b62 b63 a;b82 b82 a;bc0 bc0 a;bcd bcd a;bf3 bf8 8;",
   "bf9 bf9 7;bfa bfa 8;c00 c00 a;c04 c04 a;c3c c3c a;c3e c40 a;c46 c48 a;c4a c4d a;c55 c56 a;",
   "c62 c63 a;c78 c7e 8;c81 c81 a;cbc cbc a;ccc ccd a;ce2 ce3 a;d00 d01 a;d3b d3c a;d41 d44 a;",
   "d4d d4d a;d62 d63 a;d81 d81 a;dca dca a;dd2 dd4 a;dd6 dd6 a;e31 e31 a;e34 e3a a;e3f e3f 7;",
   "e47 e4e a;eb1 eb1 a;eb4 ebc a;ec8 ece a;f18 f19 a;f35 f35 a;f37 f37 a;f39 f39 a;f3a f3d 8;",
   "f71 f7e a;f80 f84 a;f86 f87 a;f8d f97 a;f99 fbc a;fc6 fc6 a;102d 1030 a;1032 1037 a;",
   "1039 103a a;103d 103e a;1058 1059 a;105e 1060 a;1071 1074 a;1082 1082 a;1085 1086 a;",
   "108d 108d a;109d 109d a;135d 135f a;1390 1399 8;1400 1400 8;1680 1680 b;169b 169c 8;",
   "1712 1714 a;1732 1733 a;1752 1753 a;1772 1773 a;17b4 17b5 a;17b7 17bd a;17c6 17c6 a;",
   "17c9 17d3 a;17db 17db 7;17dd 17dd a;17f0 17f9 8;1800 180a 8;180b 180d a;180e 180e 9;",
   "180f 180f a;1885 1886 a;18a9 18a9 a;1920 1922 a;1927 1928 a;1932 1932 a;1939 193b a;",
   "1940 1940 8;1944 1945 8;19de 19ff 8;1a17 1a18 a;1a1b 1a1b a;1a56 1a56 a;1a58 1a5e a;",
   "1a60 1a60 a;1a62 1a62 a;1a65 1a6c a;1a73 1a7c a;1a7f 1a7f a;1ab0 1ace a;1b00 1b03 a;",
   "1b34 1b34 a;1b36 1b3a a;1b3c 1b3c a;1b42 1b42 a;1b6b 1b73 a;1b80 1b81 a;1ba2 1ba5 a;",
   "1ba8 1ba9 a;1bab 1bad a;1be6 1be6 a;1be8 1be9 a;1bed 1bed a;1bef 1bf1 a;1c2c 1c33 a;",
   "1c36 1c37 a;1cd0 1cd2 a;1cd4 1ce0 a;1ce2 1ce8 a;1ced 1ced a;1cf4 1cf4 a;1cf8 1cf9 a;",
   "1dc0 1dff a;1fbd 1fbd 8;1fbf 1fc1 8;1fcd 1fcf 8;1fdd 1fdf 8;1fed 1fef 8;1ffd 1ffe 8;",
   "2000 200a b;200b 200d 9;200f 200f 1;2010 2027 8;2028 2029 b;202f 202f 6;2030 2034 7;",
   "2035 2043 8;2044 2044 6;2045 205e 8;205f 205f b;2060 2065 9;206a 206f 9;2070 2070 4;",
   "2074 2079 4;207a 207b 5;207c 207e 8;2080 2089 4;208a 208b 5;208c 208e 8;20a0 20cf 7;",
   "20d0 20f0 a;2100 2101 8;2103 2106 8;2108 2109 8;2114 2114 8;2116 2118 8;211e 2123 8;",
   "2125 2125 8;2127 2127 8;2129 2129 8;212e 212e 7;213a 213b 8;2140 2144 8;214a 214d 8;",
   "2150 215f 8;2189 218b 8;2190 2211 8;2212 2212 5;2213 2213 7;2214 2335 8;237b 2394 8;",
   "2396 2426 8;2440 244a 8;2460 2487 8;2488 249b 4;24ea 26ab 8;26ad 27ff 8;2900 2b73 8;",
   "2b76 2b95 8;2b97 2bff 8;2ce5 2cea 8;2cef 2cf1 a;2cf9 2cff 8;2d7f 2d7f a;2de0 2dff a;",
   "2e00 2e5d 8;2e80 2e99 8;2e9b 2ef3 8;2f00 2fd5 8;2ff0 2ffb 8;3000 3000 b;3001 3004 8;",
   "3008 3020 8;302a 302d a;3030 3030 8;3036 3037 8;303d 303f 8;3099 309a a;309b 309c 8;",
   "30a0 30a0 8;30fb 30fb 8;31c0 31e3 8;321d 321e 8;3250 325f 8;327c 327e 8;32b1 32bf 8;",
   "32cc 32cf 8;3377 337a 8;33de 33df 8;33ff 33ff 8;4dc0 4dff 8;a490 a4c6 8;a60d a60f 8;",
   "a66f a672 a;a673 a673 8;a674 a67d a;a67e a67f 8;a69e a69f a;a6f0 a6f1 a;a700 a721 8;",
   "a788 a788 8;a802 a802 a;a806 a806 a;a80b a80b a;a825 a826 a;a828 a82b 8;a82c a82c a;",
   "a838 a839 7;a874 a877 8;a8c4 a8c5 a;a8e0 a8f1 a;a8ff a8ff a;a926 a92d a;a947 a951 a;",
   "a980 a982 a;a9b3 a9b3 a;a9b6 a9b9 a;a9bc a9bd a;a9e5 a9e5 a;aa29 aa2e a;aa31 aa32 a;",
   "aa35 aa36 a;aa43 aa43 a;aa4c aa4c a;aa7c aa7c a;aab0 aab0 a;aab2 aab4 a;aab7 aab8 a;",
   "aabe aabf a;aac1 aac1 a;aaec aaed a;aaf6 aaf6 a;ab6a ab6b 8;abe5 abe5 a;abe8 abe8 a;",
   "abed abed a;fb1d fb1d 1;fb1e fb1e a;fb1f fb28 1;fb29 fb29 5;fb2a fb4f 1;fb50 fd3d 2;",
   "fd3e fd4f 8;fd50 fdce 2;fdcf fdcf 8;fdd0 fdef 9;fdf0 fdfc 2;fdfd fdff 8;fe00 fe0f a;",
   "fe10 fe19 8;fe20 fe2f a;fe30 fe4f 8;fe50 fe50 6;fe51 fe51 8;fe52 fe52 6;fe54 fe54 8;",
   "fe55 fe55 6;fe56 fe5e 8;fe5f fe5f 7;fe60 fe61 8;fe62 fe63 5;fe64 fe66 8;fe68 fe68 8;",
   "fe69 fe6a 7;fe6b fe6b 8;fe70 fefe 2;feff feff 9;ff01 ff02 8;ff03 ff05 7;ff06 ff0a 8;",
   "ff0b ff0b 5;ff0c ff0c 6;ff0d ff0d 5;ff0e ff0f 6;ff10 ff19 4;ff1a ff1a 6;ff1b ff20 8;",
   "ff3b ff40 8;ff5b ff65 8;ffe0 ffe1 7;ffe2 ffe4 8;ffe5 ffe6 7;ffe8 ffee 8;fff0 fff8 9;",
   "fff9 fffd 8;fffe ffff 9;10101 10101 8;10140 1018c 8;10190 1019c 8;101a0 101a0 8;",
   "101fd 101fd a;102e0 102e0 a;102e1 102fb 4;10376 1037a a;10800 1091e 1;1091f 1091f 8;",
   "10920 10a00 1;10a01 10a03 a;10a04 10a04 1;10a05 10a06 a;10a07 10a0b 1;10a0c 10a0f a;",
   "10a10 10a37 1;10a38 10a3a a;10a3b 10a3e 1;10a3f 10a3f a;10a40 10ae4 1;10ae5 10ae6 a;",
   "10ae7 10b38 1;10b39 10b3f 8;10b40 10cff 1;10d00 10d23 2;10d24 10d27 a;10d28 10d2f 2;",
   "10d30 10d39 3;10d3a 10d3f 2;10d40 10e5f 1;10e60 10e7e 3;10e7f 10eaa 1;10eab 10eac a;",
   "10ead 10ebf 1;10ec0 10efc 2;10efd 10eff a;10f00 10f2f 1;10f30 10f45 2;10f46 10f50 a;",
   "10f51 10f6f 2;10f70 10f81 1;10f82 10f85 a;10f86 10fff 1;11001 11001 a;11038 11046 a;",
   "11052 11065 8;11070 11070 a;11073 11074 a;1107f 11081 a;110b3 110b6 a;110b9 110ba a;",
   "110c2 110c2 a;11100 11102 a;11127 1112b a;1112d 11134 a;11173 11173 a;11180 11181 a;",
   "111b6 111be a;111c9 111cc a;111cf 111cf a;1122f 11231 a;11234 11234 a;11236 11237 a;",
   "1123e 1123e a;11241 11241 a;112df 112df a;112e3 112ea a;11300 11301 a;1133b 1133c a;",
   "11340 11340 a;11366 1136c a;11370 11374 a;11438 1143f a;11442 11444 a;11446 11446 a;",
   "1145e 1145e a;114b3 114b8 a;114ba 114ba a;114bf 114c0 a;114c2 114c3 a;115b2 115b5 a;",
   "115bc 115bd a;115bf 115c0 a;115dc 115dd a;11633 1163a a;1163d 1163d a;1163f 11640 a;",
   "11660 1166c 8;116ab 116ab a;116ad 116ad a;116b0 116b5 a;116b7 116b7 a;1171d 1171f a;",
   "11722 11725 a;11727 1172b a;1182f 11837 a;11839 1183a a;1193b 1193c a;1193e 1193e a;",
   "11943 11943 a;119d4 119d7 a;119da 119db a;119e0 119e0 a;11a01 11a06 a;11a09 11a0a a;",
   "11a33 11a38 a;11a3b 11a3e a;11a47 11a47 a;11a51 11a56 a;11a59 11a5b a;11a8a 11a96 a;",
   "11a98 11a99 a;11c30 11c36 a;11c38 11c3d a;11c92 11ca7 a;11caa 11cb0 a;11cb2 11cb3 a;",
   "11cb5 11cb6 a;11d31 11d36 a;11d3a 11d3a a;11d3c 11d3d a;11d3f 11d45 a;11d47 11d47 a;",
   "11d90 11d91 a;11d95 11d95 a;11d97 11d97 a;11ef3 11ef4 a;11f00 11f01 a;11f36 11f3a a;",
   "11f40 11f40 a;11f42 11f42 a;11fd5 11fdc 8;11fdd 11fe0 7;11fe1 11ff1 8;13440 13440 a;",
   "13447 13455 a;16af0 16af4 a;16b30 16b36 a;16f4f 16f4f a;16f8f 16f92 a;16fe2 16fe2 8;",
   "16fe4 16fe4 a;1bc9d 1bc9e a;1bca0 1bca3 9;1cf00 1cf2d a;1cf30 1cf46 a;1d167 1d169 a;",
   "1d173 1d17a 9;1d17b 1d182 a;1d185 1d18b a;1d1aa 1d1ad a;1d1e9 1d1ea 8;1d200 1d241 8;",
   "1d242 1d244 a;1d245 1d245 8;1d300 1d356 8;1d6db 1d6db 8;1d715 1d715 8;1d74f 1d74f 8;",
   "1d789 1d789 8;1d7c3 1d7c3 8;1d7ce 1d7ff 4;1da00 1da36 a;1da3b 1da6c a;1da75 1da75 a;",
   "1da84 1da84 a;1da9b 1da9f a;1daa1 1daaf a;1e000 1e006 a;1e008 1e018 a;1e01b 1e021 a;",
   "1e023 1e024 a;1e026 1e02a a;1e08f 1e08f a;1e130 1e136 a;1e2ae 1e2ae a;1e2ec 1e2ef a;",
   "1e2ff 1e2ff 7;1e4ec 1e4ef a;1e800 1e8cf 1;1e8d0 1e8d6 a;1e8d7 1e943 1;1e944 1e94a a;",
   "1e94b 1ec6f 1;1ec70 1ecbf 2;1ecc0 1ecff 1;1ed00 1ed4f 2;1ed50 1edff 1;1ee00 1eeef 2;",
   "1eef0 1eef1 8;1eef2 1eeff 2;1ef00 1efff 1;1f000 1f02b 8;1f030 1f093 8;1f0a0 1f0ae 8;",
   "1f0b1 1f0bf 8;1f0c1 1f0cf 8;1f0d1 1f0f5 8;1f100 1f10a 4;1f10b 1f10f 8;1f12f 1f12f 8;",
   "1f16a 1f16f 8;1f1ad 1f1ad 8;1f260 1f265 8;1f300 1f6d7 8;1f6dc 1f6ec 8;1f6f0 1f6fc 8;",
   "1f700 1f776 8;1f77b 1f7d9 8;1f7e0 1f7eb 8;1f7f0 1f7f0 8;1f800 1f80b 8;1f810 1f847 8;",
   "1f850 1f859 8;1f860 1f887 8;1f890 1f8ad 8;1f8b0 1f8b1 8;1f900 1fa53 8;1fa60 1fa6d 8;",
   "1fa70 1fa7c 8;1fa80 1fa88 8;1fa90 1fabd 8;1fabf 1fac5 8;1face 1fadb 8;1fae0 1fae8 8;",
   "1faf0 1faf8 8;1fb00 1fb92 8;1fb94 1fbca 8;1fbf0 1fbf9 4;1fffe 1ffff 9;2fffe 2ffff 9;",
   "3fffe 3ffff 9;4fffe 4ffff 9;5fffe 5ffff 9;6fffe 6ffff 9;7fffe 7ffff 9;8fffe 8ffff 9;",
   "9fffe 9ffff 9;afffe affff 9;bfffe bffff 9;cfffe cffff 9;dfffe e00ff 9;e0100 e01ef a;",
   "e01f0 e0fff 9;efffe effff 9;ffffe fffff 9;10fffe 10ffff 9;"]

/-- Runs of one joining type: zero for left, one for right, two for both sides, three for
transparent. -/
def shapingTable : List String :=
  ["ad ad 3;300 36f 3;483 489 3;591 5bd 3;5bf 5bf 3;5c1 5c2 3;5c4 5c5 3;5c7 5c7 3;610 61a 3;",
   "61c 61c 3;620 620 2;622 625 1;626 626 2;627 627 1;628 628 2;629 629 1;62a 62e 2;62f 632 1;",
   "633 63f 2;641 647 2;648 648 1;649 64a 2;64b 65f 3;66e 66f 2;670 670 3;671 673 1;675 677 1;",
   "678 687 2;688 699 1;69a 6bf 2;6c0 6c0 1;6c1 6c2 2;6c3 6cb 1;6cc 6cc 2;6cd 6cd 1;6ce 6ce 2;",
   "6cf 6cf 1;6d0 6d1 2;6d2 6d3 1;6d5 6d5 1;6d6 6dc 3;6df 6e4 3;6e7 6e8 3;6ea 6ed 3;6ee 6ef 1;",
   "6fa 6fc 2;6ff 6ff 2;70f 70f 3;710 710 1;711 711 3;712 714 2;715 719 1;71a 71d 2;71e 71e 1;",
   "71f 727 2;728 728 1;729 729 2;72a 72a 1;72b 72b 2;72c 72c 1;72d 72e 2;72f 72f 1;730 74a 3;",
   "74d 74d 1;74e 758 2;759 75b 1;75c 76a 2;76b 76c 1;76d 770 2;771 771 1;772 772 2;773 774 1;",
   "775 777 2;778 779 1;77a 77f 2;7a6 7b0 3;7ca 7ea 2;7eb 7f3 3;7fd 7fd 3;816 819 3;81b 823 3;",
   "825 827 3;829 82d 3;840 840 1;841 845 2;846 847 1;848 848 2;849 849 1;84a 853 2;854 854 1;",
   "855 855 2;856 858 1;859 85b 3;860 860 2;862 865 2;867 867 1;868 868 2;869 86a 1;870 882 1;",
   "886 886 2;889 88d 2;88e 88e 1;898 89f 3;8a0 8a9 2;8aa 8ac 1;8ae 8ae 1;8af 8b0 2;8b1 8b2 1;",
   "8b3 8b8 2;8b9 8b9 1;8ba 8c8 2;8ca 8e1 3;8e3 902 3;93a 93a 3;93c 93c 3;941 948 3;94d 94d 3;",
   "951 957 3;962 963 3;981 981 3;9bc 9bc 3;9c1 9c4 3;9cd 9cd 3;9e2 9e3 3;9fe 9fe 3;a01 a02 3;",
   "a3c a3c 3;a41 a42 3;a47 a48 3;a4b a4d 3;a51 a51 3;a70 a71 3;a75 a75 3;a81 a82 3;abc abc 3;",
   "ac1 ac5 3;ac7 ac8 3;acd acd 3;ae2 ae3 3;afa aff 3;b01 b01 3;b3c b3c 3;b3f b3f 3;b41 b44 3;",
   "b4d b4d 3;b55 b56 3;b62 b63 3;b82 b82 3;bc0 bc0 3;bcd bcd 3;c00 c00 3;c04 c04 3;c3c c3c 3;",
   "c3e c40 3;c46 c48 3;c4a c4d 3;c55 c56 3;c62 c63 3;c81 c81 3;cbc cbc 3;cbf cbf 3;cc6 cc6 3;",
   "ccc ccd 3;ce2 ce3 3;d00 d01 3;d3b d3c 3;d41 d44 3;d4d d4d 3;d62 d63 3;d81 d81 3;dca dca 3;",
   "dd2 dd4 3;dd6 dd6 3;e31 e31 3;e34 e3a 3;e47 e4e 3;eb1 eb1 3;eb4 ebc 3;ec8 ece 3;f18 f19 3;",
   "f35 f35 3;f37 f37 3;f39 f39 3;f71 f7e 3;f80 f84 3;f86 f87 3;f8d f97 3;f99 fbc 3;fc6 fc6 3;",
   "102d 1030 3;1032 1037 3;1039 103a 3;103d 103e 3;1058 1059 3;105e 1060 3;1071 1074 3;",
   "1082 1082 3;1085 1086 3;108d 108d 3;109d 109d 3;135d 135f 3;1712 1714 3;1732 1733 3;",
   "1752 1753 3;1772 1773 3;17b4 17b5 3;17b7 17bd 3;17c6 17c6 3;17c9 17d3 3;17dd 17dd 3;",
   "1807 1807 2;180b 180d 3;180f 180f 3;1820 1878 2;1885 1886 3;1887 18a8 2;18a9 18a9 3;",
   "18aa 18aa 2;1920 1922 3;1927 1928 3;1932 1932 3;1939 193b 3;1a17 1a18 3;1a1b 1a1b 3;",
   "1a56 1a56 3;1a58 1a5e 3;1a60 1a60 3;1a62 1a62 3;1a65 1a6c 3;1a73 1a7c 3;1a7f 1a7f 3;",
   "1ab0 1ace 3;1b00 1b03 3;1b34 1b34 3;1b36 1b3a 3;1b3c 1b3c 3;1b42 1b42 3;1b6b 1b73 3;",
   "1b80 1b81 3;1ba2 1ba5 3;1ba8 1ba9 3;1bab 1bad 3;1be6 1be6 3;1be8 1be9 3;1bed 1bed 3;",
   "1bef 1bf1 3;1c2c 1c33 3;1c36 1c37 3;1cd0 1cd2 3;1cd4 1ce0 3;1ce2 1ce8 3;1ced 1ced 3;",
   "1cf4 1cf4 3;1cf8 1cf9 3;1dc0 1dff 3;200b 200b 3;200e 200f 3;202a 202e 3;2060 2064 3;",
   "206a 206f 3;20d0 20f0 3;2cef 2cf1 3;2d7f 2d7f 3;2de0 2dff 3;302a 302d 3;3099 309a 3;",
   "a66f a672 3;a674 a67d 3;a69e a69f 3;a6f0 a6f1 3;a802 a802 3;a806 a806 3;a80b a80b 3;",
   "a825 a826 3;a82c a82c 3;a840 a871 2;a872 a872 0;a8c4 a8c5 3;a8e0 a8f1 3;a8ff a8ff 3;",
   "a926 a92d 3;a947 a951 3;a980 a982 3;a9b3 a9b3 3;a9b6 a9b9 3;a9bc a9bd 3;a9e5 a9e5 3;",
   "aa29 aa2e 3;aa31 aa32 3;aa35 aa36 3;aa43 aa43 3;aa4c aa4c 3;aa7c aa7c 3;aab0 aab0 3;",
   "aab2 aab4 3;aab7 aab8 3;aabe aabf 3;aac1 aac1 3;aaec aaed 3;aaf6 aaf6 3;abe5 abe5 3;",
   "abe8 abe8 3;abed abed 3;fb1e fb1e 3;fe00 fe0f 3;fe20 fe2f 3;feff feff 3;fff9 fffb 3;",
   "101fd 101fd 3;102e0 102e0 3;10376 1037a 3;10a01 10a03 3;10a05 10a06 3;10a0c 10a0f 3;",
   "10a38 10a3a 3;10a3f 10a3f 3;10ac0 10ac4 2;10ac5 10ac5 1;10ac7 10ac7 1;10ac9 10aca 1;",
   "10acd 10acd 0;10ace 10ad2 1;10ad3 10ad6 2;10ad7 10ad7 0;10ad8 10adc 2;10add 10add 1;",
   "10ade 10ae0 2;10ae1 10ae1 1;10ae4 10ae4 1;10ae5 10ae6 3;10aeb 10aee 2;10aef 10aef 1;",
   "10b80 10b80 2;10b81 10b81 1;10b82 10b82 2;10b83 10b85 1;10b86 10b88 2;10b89 10b89 1;",
   "10b8a 10b8b 2;10b8c 10b8c 1;10b8d 10b8d 2;10b8e 10b8f 1;10b90 10b90 2;10b91 10b91 1;",
   "10ba9 10bac 1;10bad 10bae 2;10d00 10d00 0;10d01 10d21 2;10d22 10d22 1;10d23 10d23 2;",
   "10d24 10d27 3;10eab 10eac 3;10efd 10eff 3;10f30 10f32 2;10f33 10f33 1;10f34 10f44 2;",
   "10f46 10f50 3;10f51 10f53 2;10f54 10f54 1;10f70 10f73 2;10f74 10f75 1;10f76 10f81 2;",
   "10f82 10f85 3;10fb0 10fb0 2;10fb2 10fb3 2;10fb4 10fb6 1;10fb8 10fb8 2;10fb9 10fba 1;",
   "10fbb 10fbc 2;10fbd 10fbd 1;10fbe 10fbf 2;10fc1 10fc1 2;10fc2 10fc3 1;10fc4 10fc4 2;",
   "10fc9 10fc9 1;10fca 10fca 2;10fcb 10fcb 0;11001 11001 3;11038 11046 3;11070 11070 3;",
   "11073 11074 3;1107f 11081 3;110b3 110b6 3;110b9 110ba 3;110c2 110c2 3;11100 11102 3;",
   "11127 1112b 3;1112d 11134 3;11173 11173 3;11180 11181 3;111b6 111be 3;111c9 111cc 3;",
   "111cf 111cf 3;1122f 11231 3;11234 11234 3;11236 11237 3;1123e 1123e 3;11241 11241 3;",
   "112df 112df 3;112e3 112ea 3;11300 11301 3;1133b 1133c 3;11340 11340 3;11366 1136c 3;",
   "11370 11374 3;11438 1143f 3;11442 11444 3;11446 11446 3;1145e 1145e 3;114b3 114b8 3;",
   "114ba 114ba 3;114bf 114c0 3;114c2 114c3 3;115b2 115b5 3;115bc 115bd 3;115bf 115c0 3;",
   "115dc 115dd 3;11633 1163a 3;1163d 1163d 3;1163f 11640 3;116ab 116ab 3;116ad 116ad 3;",
   "116b0 116b5 3;116b7 116b7 3;1171d 1171f 3;11722 11725 3;11727 1172b 3;1182f 11837 3;",
   "11839 1183a 3;1193b 1193c 3;1193e 1193e 3;11943 11943 3;119d4 119d7 3;119da 119db 3;",
   "119e0 119e0 3;11a01 11a0a 3;11a33 11a38 3;11a3b 11a3e 3;11a47 11a47 3;11a51 11a56 3;",
   "11a59 11a5b 3;11a8a 11a96 3;11a98 11a99 3;11c30 11c36 3;11c38 11c3d 3;11c3f 11c3f 3;",
   "11c92 11ca7 3;11caa 11cb0 3;11cb2 11cb3 3;11cb5 11cb6 3;11d31 11d36 3;11d3a 11d3a 3;",
   "11d3c 11d3d 3;11d3f 11d45 3;11d47 11d47 3;11d90 11d91 3;11d95 11d95 3;11d97 11d97 3;",
   "11ef3 11ef4 3;11f00 11f01 3;11f36 11f3a 3;11f40 11f40 3;11f42 11f42 3;13430 13440 3;",
   "13447 13455 3;16af0 16af4 3;16b30 16b36 3;16f4f 16f4f 3;16f8f 16f92 3;16fe4 16fe4 3;",
   "1bc9d 1bc9e 3;1bca0 1bca3 3;1cf00 1cf2d 3;1cf30 1cf46 3;1d167 1d169 3;1d173 1d182 3;",
   "1d185 1d18b 3;1d1aa 1d1ad 3;1d242 1d244 3;1da00 1da36 3;1da3b 1da6c 3;1da75 1da75 3;",
   "1da84 1da84 3;1da9b 1da9f 3;1daa1 1daaf 3;1e000 1e006 3;1e008 1e018 3;1e01b 1e021 3;",
   "1e023 1e024 3;1e026 1e02a 3;1e08f 1e08f 3;1e130 1e136 3;1e2ae 1e2ae 3;1e2ec 1e2ef 3;",
   "1e4ec 1e4ef 3;1e8d0 1e8d6 3;1e900 1e943 2;1e944 1e94b 3;e0001 e0001 3;e0020 e007f 3;",
   "e0100 e01ef 3;"]

/-- The ranges of `refusedTable`. -/
def refusedRanges : CodeTree Nat := rangeTree (tableRanges refusedTable)

/-- The ranges of `droppedTable`. -/
def droppedRanges : CodeTree Nat := rangeTree (tableRanges droppedTable)

/-- The entries of `replacedRunTable`. -/
def replacedRuns : CodeTree (List Nat) := tableTree replacedRunTable

/-- The entries of `replacedTable`. -/
def replacedTree : CodeTree (List Nat) := tableTree replacedTable

/-- The ranges of `markTable`. -/
def markRanges : CodeTree Nat := rangeTree (tableRanges markTable)

/-- The entries of `directionTable`. -/
def directionTree : CodeTree (List Nat) := tableTree directionTable

/-- The entries of `shapingTable`. -/
def shapingTree : CodeTree (List Nat) := tableTree shapingTable

end SeedVault.Domain
