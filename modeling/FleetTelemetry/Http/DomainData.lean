/-!
# Tables of domain mapping

How the names of internationalized domains treat each character, after Unicode Technical
Standard 46, as packed tables (see `FleetTelemetry.Text.readRecords`). A character none of the
tables names is valid and stands for itself.
-/

namespace FleetTelemetry.Http

/-- Characters mapped to one character: records `first,last,stride,shift` (hexadecimal, the shift
signed), each mapping every `stride`-th code point from `first` to `last` to the one `shift` away.
-/
def mappedRunText : List String := [
  "41,5a,1,20 a0,a0,1,-80 aa,aa,1,-49 b2,b3,1,-80 b5,b5,1,307 b9,b9,1,-88 ba,ba,1,-4b c0,d6,1,20",
  "d8,de,1,20 100,12e,2,1 134,136,2,1 139,13d,2,1 141,147,2,1 14a,176,2,1 178,178,1,-79 179,17d,2,1",
  "17f,17f,1,-10c 181,181,1,d2 182,184,2,1 186,186,1,ce 187,187,1,1 189,18a,1,cd 18b,18b,1,1",
  "18e,18e,1,4f 18f,18f,1,ca 190,190,1,cb 191,191,1,1 193,193,1,cd 194,194,1,cf 196,196,1,d3",
  "197,197,1,d1 198,198,1,1 19c,19c,1,d3 19d,19d,1,d5 19f,19f,1,d6 1a0,1a4,2,1 1a6,1a6,1,da",
  "1a7,1a7,1,1 1a9,1a9,1,da 1ac,1ac,1,1 1ae,1ae,1,da 1af,1af,1,1 1b1,1b2,1,d9 1b3,1b5,2,1",
  "1b7,1b7,1,db 1b8,1b8,1,1 1bc,1bc,1,1 1cd,1db,2,1 1de,1ee,2,1 1f4,1f4,1,1 1f6,1f6,1,-61",
  "1f7,1f7,1,-38 1f8,21e,2,1 220,220,1,-82 222,232,2,1 23a,23a,1,2a2b 23b,23b,1,1 23d,23d,1,-a3",
  "23e,23e,1,2a28 241,241,1,1 243,243,1,-c3 244,244,1,45 245,245,1,47 246,24e,2,1 2b0,2b0,1,-248",
  "2b1,2b1,1,-4b 2b2,2b2,1,-248 2b3,2b3,1,-241 2b4,2b4,1,-3b 2b5,2b5,1,-3a 2b6,2b6,1,-35",
  "2b7,2b7,1,-240 2b8,2b8,1,-23f 2e0,2e0,1,-7d 2e1,2e1,1,-275 2e2,2e2,1,-26f 2e3,2e3,1,-26b",
  "2e4,2e4,1,-4f 340,341,1,-40 343,343,1,-30 345,345,1,74 370,372,2,1 374,374,1,-bb 376,376,1,1",
  "37e,37e,1,-343 37f,37f,1,74 386,386,1,26 387,387,1,-2d0 388,38a,1,25 38c,38c,1,40 38e,38f,1,3f",
  "391,3a1,1,20 3a3,3ab,1,20 3cf,3cf,1,8 3d0,3d0,1,-1e 3d1,3d1,1,-19 3d2,3d2,1,-d 3d3,3d3,1,-6",
  "3d4,3d4,1,-9 3d5,3d5,1,-f 3d6,3d6,1,-16 3d8,3ee,2,1 3f0,3f0,1,-36 3f1,3f1,1,-30 3f2,3f2,1,-2f",
  "3f4,3f4,1,-3c 3f5,3f5,1,-40 3f7,3f7,1,1 3f9,3f9,1,-36 3fa,3fa,1,1 3fd,3ff,1,-82 400,40f,1,50",
  "410,42f,1,20 460,480,2,1 48a,4be,2,1 4c0,4c0,1,f 4c1,4cd,2,1 4d0,52e,2,1 531,556,1,30",
  "f0c,f0c,1,-1 10a0,10c5,1,1c60 10c7,10c7,1,1c60 10cd,10cd,1,1c60 10fc,10fc,1,-20 13f8,13fd,1,-8",
  "1c80,1c80,1,-184e 1c81,1c81,1,-184d 1c82,1c82,1,-1844 1c83,1c84,1,-1842 1c85,1c85,1,-1843",
  "1c86,1c86,1,-183c 1c87,1c87,1,-1824 1c88,1c88,1,89c3 1c89,1c89,1,1 1c90,1cba,1,-bc0",
  "1cbd,1cbf,1,-bc0 1d2c,1d2c,1,-1ccb 1d2d,1d2d,1,-1c47 1d2e,1d30,2,-1ccc 1d31,1d31,1,-1ccc",
  "1d32,1d32,1,-1b55 1d33,1d3a,1,-1ccc 1d3c,1d3c,1,-1ccd 1d3d,1d3d,1,-1b1a 1d3e,1d3e,1,-1cce",
  "1d3f,1d3f,1,-1ccd 1d40,1d41,1,-1ccc 1d42,1d42,1,-1ccb 1d43,1d43,1,-1ce2 1d44,1d45,1,-1af4",
  "1d46,1d46,1,-44 1d47,1d47,1,-1ce5 1d48,1d49,1,-1ce4 1d4a,1d4a,1,-1af1 1d4b,1d4c,1,-1af0",
  "1d4d,1d4d,1,-1ce6 1d4f,1d4f,1,-1ce4 1d50,1d50,1,-1ce3 1d51,1d51,1,-1c06 1d52,1d52,1,-1ce3",
  "1d53,1d53,1,-1aff 1d54,1d55,1,-3e 1d56,1d56,1,-1ce6 1d57,1d58,1,-1ce3 1d59,1d59,1,-3c",
  "1d5a,1d5a,1,-1aeb 1d5b,1d5b,1,-1ce5 1d5c,1d5c,1,-37 1d5d,1d5f,1,-19ab 1d60,1d61,1,-199a",
  "1d62,1d62,1,-1cf9 1d63,1d63,1,-1cf1 1d64,1d65,1,-1cef 1d66,1d67,1,-19b4 1d68,1d68,1,-19a7",
  "1d69,1d6a,1,-19a3 1d78,1d78,1,-193b 1d9b,1d9b,1,-1b49 1d9c,1d9c,1,-1d39 1d9d,1d9d,1,-1b48",
  "1d9e,1d9e,1,-1cae 1d9f,1d9f,1,-1b43 1da0,1da0,1,-1d3a 1da1,1da1,1,-1b42 1da2,1da2,1,-1b41",
  "1da3,1da3,1,-1b3e 1da4,1da6,1,-1b3c 1da7,1da7,1,-2c 1da8,1da8,1,-1b0b 1da9,1da9,1,-1b3c",
  "1daa,1daa,1,-25 1dab,1dab,1,-1b0c 1dac,1dac,1,-1b3b 1dad,1dad,1,-1b3d 1dae,1db1,1,-1b3c",
  "1db2,1db2,1,-1b3a 1db3,1db4,1,-1b31 1db5,1db5,1,-1c0a 1db6,1db7,1,-1b2d 1db8,1db8,1,-9c",
  "1db9,1dba,1,-1b2e 1dbb,1dbb,1,-1d41 1dbc,1dbe,1,-1b2c 1dbf,1dbf,1,-1a07 1e00,1e94,2,1",
  "1e9b,1e9b,1,-3a 1e9e,1e9e,1,-1dbf 1ea0,1efe,2,1 1f08,1f0f,1,-8 1f18,1f1d,1,-8 1f28,1f2f,1,-8",
  "1f38,1f3f,1,-8 1f48,1f4d,1,-8 1f59,1f5f,2,-8 1f68,1f6f,1,-8 1f71,1f71,1,-1bc5 1f73,1f73,1,-1bc6",
  "1f75,1f75,1,-1bc7 1f77,1f77,1,-1bc8 1f79,1f79,1,-1bad 1f7b,1f7b,1,-1bae 1f7d,1f7d,1,-1baf",
  "1fb8,1fb9,1,-8 1fba,1fba,1,-4a 1fbb,1fbb,1,-1c0f 1fbe,1fbe,1,-1c05 1fc8,1fc8,1,-56",
  "1fc9,1fc9,1,-1c1c 1fca,1fca,1,-56 1fcb,1fcb,1,-1c1d 1fd3,1fd3,1,-1c43 1fd8,1fd9,1,-8",
  "1fda,1fda,1,-64 1fdb,1fdb,1,-1c2c 1fe3,1fe3,1,-1c33 1fe8,1fe9,1,-8 1fea,1fea,1,-70",
  "1feb,1feb,1,-1c1e 1fec,1fec,1,-7 1fef,1fef,1,-1f8f 1ff8,1ff8,1,-80 1ff9,1ff9,1,-1c2d",
  "1ffa,1ffa,1,-7e 1ffb,1ffb,1,-1c2d 2000,2000,1,-1fe0 2001,2001,1,-1fe1 2002,2002,1,-1fe2",
  "2003,2003,1,-1fe3 2004,2004,1,-1fe4 2005,2005,1,-1fe5 2006,2006,1,-1fe6 2007,2007,1,-1fe7",
  "2008,2008,1,-1fe8 2009,2009,1,-1fe9 200a,200a,1,-1fea 2011,2011,1,-1 202f,202f,1,-200f",
  "205f,205f,1,-203f 2070,2070,1,-2040 2071,2071,1,-2008 2074,2079,1,-2040 207a,207a,1,-204f",
  "207b,207b,1,197 207c,207c,1,-203f 207d,207e,1,-2055 207f,207f,1,-2011 2080,2089,1,-2050",
  "208a,208a,1,-205f 208b,208b,1,187 208c,208c,1,-204f 208d,208e,1,-2065 2090,2090,1,-202f",
  "2091,2091,1,-202c 2092,2092,1,-2023 2093,2093,1,-201b 2094,2094,1,-1e3b 2095,2095,1,-202d",
  "2096,2099,1,-202b 209a,209a,1,-202a 209b,209c,1,-2028 2102,2102,1,-209f 2107,2107,1,-1eac",
  "210a,210b,1,-20a3 210c,210c,1,-20a4 210d,210d,1,-20a5 210e,210e,1,-20a6 210f,210f,1,-1fe8",
  "2110,2110,1,-20a7 2111,2111,1,-20a8 2112,2112,1,-20a6 2113,2115,2,-20a7 2119,211b,1,-20a9",
  "211c,211c,1,-20aa 211d,211d,1,-20ab 2124,2124,1,-20aa 2126,2126,1,-1d5d 2128,2128,1,-20ae",
  "212a,212a,1,-20bf 212b,212b,1,-2046 212c,212d,1,-20ca 212f,212f,1,-20ca 2130,2131,1,-20cb",
  "2132,2132,1,1c 2133,2133,1,-20c6 2134,2134,1,-20c5 2135,2138,1,-1b65 2139,2139,1,-20d0",
  "213c,213c,1,-1d7c 213d,213d,1,-1d8a 213e,213e,1,-1d8b 213f,213f,1,-1d7f 2140,2140,1,d1",
  "2145,2145,1,-20e1 2146,2147,1,-20e2 2148,2149,1,-20df 2160,2160,1,-20f7 2164,2164,1,-20ee",
  "2169,2169,1,-20f1 216c,216c,1,-2100 216d,216e,1,-210a 216f,216f,1,-2102 2170,2170,1,-2107",
  "2174,2174,1,-20fe 2179,2179,1,-2101 217c,217c,1,-2110 217d,217e,1,-211a 217f,217f,1,-2112",
  "2183,2183,1,1 2329,232a,1,cdf 2460,2468,1,-242f 24b6,24cf,1,-2455 24d0,24e9,1,-246f",
  "24ea,24ea,1,-24ba 2c00,2c2f,1,30 2c60,2c60,1,1 2c62,2c62,1,-29f7 2c63,2c63,1,-ee6",
  "2c64,2c64,1,-29e7 2c67,2c6b,2,1 2c6d,2c6d,1,-2a1c 2c6e,2c6e,1,-29fd 2c6f,2c6f,1,-2a1f",
  "2c70,2c70,1,-2a1e 2c72,2c72,1,1 2c75,2c75,1,1 2c7c,2c7c,1,-2c12 2c7d,2c7d,1,-2c07",
  "2c7e,2c7f,1,-2a3f 2c80,2ce2,2,1 2ceb,2ced,2,1 2cf2,2cf2,1,1 2d6f,2d6f,1,-e 2e9f,2e9f,1,3d2e",
  "2ef3,2ef3,1,70ac 2f00,2f00,1,1f00 2f01,2f01,1,1f27 2f02,2f02,1,1f34 2f03,2f03,1,1f3c",
  "2f04,2f04,1,1f55 2f05,2f05,1,1f80 2f06,2f06,1,1f86 2f07,2f07,1,1f99 2f08,2f08,1,1fb2",
  "2f09,2f09,1,2236 2f0a,2f0a,1,225b 2f0b,2f0b,1,2260 2f0c,2f0c,1,2276 2f0d,2f0d,1,2289",
  "2f0e,2f0e,1,229d 2f0f,2f0f,1,22d1 2f10,2f10,1,22e5 2f11,2f11,1,22ef 2f12,2f12,1,2389",
  "2f13,2f13,1,23e6 2f14,2f14,1,2401 2f15,2f15,1,2405 2f16,2f16,1,2422 2f17,2f17,1,242a",
  "2f18,2f18,1,2444 2f19,2f19,1,2450 2f1a,2f1a,1,2468 2f1b,2f1b,1,249b 2f1c,2f1c,1,24ac",
  "2f1d,2f1d,1,24c6 2f1e,2f1e,1,27b9 2f1f,2f1f,1,2800 2f20,2f20,1,29cb 2f21,2f21,1,29e1",
  "2f22,2f22,1,29e8 2f23,2f23,1,29f2 2f24,2f24,1,2a03 2f25,2f25,1,2a4e 2f26,2f26,1,2c2a",
  "2f27,2f27,1,2c59 2f28,2f28,1,2cd0 2f29,2f29,1,2ce6 2f2a,2f2a,1,2cf8 2f2b,2f2b,1,2d0d",
  "2f2c,2f2c,1,2d42 2f2d,2f2d,1,2d44 2f2e,2f2e,1,2ead 2f2f,2f2f,1,2eb6 2f30,2f30,1,2ec1",
  "2f31,2f31,1,2ecd 2f32,2f32,1,2f40 2f33,2f33,1,2f47 2f34,2f34,1,2f4b 2f35,2f35,1,2fbf",
  "2f36,2f36,1,2fc8 2f37,2f37,1,2fd4 2f38,2f38,1,2fdb 2f39,2f39,1,3017 2f3a,2f3a,1,3027",
  "2f3b,2f3b,1,3038 2f3c,2f3c,1,3087 2f3d,2f3d,1,32cb 2f3e,2f3e,1,32f8 2f3f,2f3f,1,330c",
  "2f40,2f40,1,35ef 2f41,2f41,1,35f3 2f42,2f42,1,3645 2f43,2f43,1,3654 2f44,2f44,1,3660",
  "2f45,2f45,1,3674 2f46,2f46,1,369a 2f47,2f47,1,369e 2f48,2f48,1,37a8 2f49,2f49,1,37bf",
  "2f4a,2f4a,1,37de 2f4b,2f4b,1,3bd5 2f4c,2f4c,1,3c16 2f4d,2f4d,1,3c2c 2f4e,2f4e,1,3c65",
  "2f4f,2f4f,1,3c7c 2f50,2f50,1,3c84 2f51,2f51,1,3c8a 2f52,2f52,1,3cbd 2f53,2f53,1,3cc1",
  "2f54,2f54,1,3ce0 2f55,2f55,1,4116 2f56,2f56,1,42d4 2f57,2f57,1,42df 2f58,2f58,1,42e3",
  "2f59,2f59,1,42e6 2f5a,2f5a,1,42ed 2f5b,2f5b,1,42fe 2f5c,2f5c,1,42ff 2f5d,2f5d,1,434f",
  "2f5e,2f5e,1,4426 2f5f,2f5f,1,442a 2f60,2f60,1,457c 2f61,2f61,1,4585 2f62,2f62,1,45b6",
  "2f63,2f63,1,45bc 2f64,2f64,1,45c4 2f65,2f65,1,45cb 2f66,2f66,1,4625 2f67,2f67,1,462b",
  "2f68,2f68,1,470e 2f69,2f69,1,4714 2f6a,2f6a,1,4744 2f6b,2f6b,1,4754 2f6c,2f6c,1,4782",
  "2f6d,2f6d,1,486e 2f6e,2f6e,1,4874 2f6f,2f6f,1,4884 2f70,2f70,1,49ca 2f71,2f71,1,4a47",
  "2f72,2f72,1,4a4c 2f73,2f73,1,4b01 2f74,2f74,1,4b57 2f75,2f75,1,4b84 2f76,2f76,1,4cfd",
  "2f77,2f77,1,4d81 2f78,2f78,1,4fbe 2f79,2f79,1,4fd8 2f7a,2f7a,1,5010 2f7b,2f7b,1,5042",
  "2f7c,2f7c,1,5085 2f7d,2f7d,1,508f 2f7e,2f7e,1,5094 2f7f,2f7f,1,50b4 2f80,2f80,1,50ff",
  "2f81,2f81,1,5108 2f82,2f82,1,5261 2f83,2f83,1,5267 2f84,2f84,1,526f 2f85,2f85,1,5277",
  "2f86,2f86,1,5286 2f87,2f87,1,5294 2f88,2f88,1,5297 2f89,2f89,1,52e5 2f8a,2f8a,1,52e8",
  "2f8b,2f8b,1,52ed 2f8c,2f8c,1,56c1 2f8d,2f8d,1,56de 2f8e,2f8e,1,58b2 2f8f,2f8f,1,58bd",
  "2f90,2f90,1,58d3 2f91,2f91,1,59ed 2f92,2f92,1,59f9 2f93,2f93,1,5a3f 2f94,2f94,1,5a6c",
  "2f95,2f95,1,5ca2 2f96,2f96,1,5cb0 2f97,2f97,1,5cbe 2f98,2f98,1,5ce0 2f99,2f99,1,5d04",
  "2f9a,2f9a,1,5dca 2f9b,2f9b,1,5dd5 2f9c,2f9c,1,5e17 2f9d,2f9d,1,5f0e 2f9e,2f9e,1,5f2c",
  "2f9f,2f9f,1,5ffc 2fa0,2fa0,1,6010 2fa1,2fa1,1,6014 2fa2,2fa2,1,60ef 2fa3,2fa3,1,61a6",
  "2fa4,2fa4,1,6222 2fa5,2fa5,1,6227 2fa6,2fa6,1,622b 2fa7,2fa7,1,65d0 2fa8,2fa8,1,65d8",
  "2fa9,2fa9,1,6673 2faa,2faa,1,670c 2fab,2fab,1,670e 2fac,2fac,1,673c 2fad,2fad,1,67a4",
  "2fae,2fae,1,67b0 2faf,2faf,1,67b3 2fb0,2fb0,1,67b9 2fb1,2fb1,1,681a 2fb2,2fb2,1,683b",
  "2fb3,2fb3,1,6840 2fb4,2fb4,1,684d 2fb5,2fb5,1,68f3 2fb6,2fb6,1,6925 2fb7,2fb7,1,6928",
  "2fb8,2fb8,1,69de 2fb9,2fb9,1,69e0 2fba,2fba,1,69f2 2fbb,2fbb,1,6aed 2fbc,2fbc,1,6b1c",
  "2fbd,2fbd,1,6b22 2fbe,2fbe,1,6b67 2fbf,2fbf,1,6b70 2fc0,2fc0,1,6b72 2fc1,2fc1,1,6b7b",
  "2fc2,2fc2,1,6b98 2fc3,2fc3,1,6d22 2fc4,2fc4,1,6eb1 2fc5,2fc5,1,6eba 2fc6,2fc6,1,6edf",
  "2fc7,2fc7,1,6ef4 2fc8,2fc8,1,6efb 2fc9,2fc9,1,6f04 2fca,2fca,1,6f07 2fcb,2fcb,1,6f2e",
  "2fcc,2fcc,1,6f31 2fcd,2fcd,1,6f41 2fce,2fce,1,6f45 2fcf,2fcf,1,6f51 2fd0,2fd0,1,6f6b",
  "2fd1,2fd1,1,6f79 2fd2,2fd2,1,6f80 2fd3,2fd3,1,6fba 2fd4,2fd4,1,6fc8 2fd5,2fd5,1,6fcb",
  "3000,3000,1,-2fe0 3002,3002,1,-2fd4 3036,3036,1,-24 3038,3038,1,2309 3039,303a,1,230b",
  "3131,3132,1,-2031 3133,3133,1,-1f89 3134,3134,1,-2032 3135,3136,1,-1f89 3137,3139,1,-2034",
  "313a,313f,1,-1f8a 3140,3140,1,-2026 3141,3143,1,-203b 3144,3144,1,-2023 3145,314e,1,-203c",
  "314f,3163,1,-1fee 3165,3166,1,-2051 3167,3168,1,-1fa0 3169,3169,1,-1f9d 316a,316a,1,-1f9c",
  "316b,316b,1,-1f98 316c,316c,1,-1f95 316d,316d,1,-1f94 316e,316e,1,-2052 316f,316f,1,-1f92",
  "3170,3170,1,-1f91 3171,3172,1,-2054 3173,3173,1,-2053 3174,3175,1,-2052 3176,3176,1,-204f",
  "3177,3177,1,-204e 3178,317c,1,-204d 317d,317d,1,-204b 317e,317e,1,-2048 317f,317f,1,-203f",
  "3180,3180,1,-2039 3181,3181,1,-2035 3182,3183,1,-1f91 3184,3186,1,-202d 3187,3188,1,-2003",
  "3189,3189,1,-2001 318a,318b,1,-1ff9 318c,318c,1,-1ff8 318d,318d,1,-1fef 318e,318e,1,-1fed",
  "3192,3192,1,1c6e 3193,3193,1,1cf9 3194,3194,1,1c75 3195,3195,1,2546 3196,3196,1,1c74",
  "3197,3197,1,1c96 3198,3198,1,1c73 3199,3199,1,4399 319a,319a,1,1cbf 319b,319b,1,1c7e",
  "319c,319c,1,1c65 319d,319d,1,278c 319e,319e,1,2592 319f,319f,1,1d1b 3244,3244,1,230b",
  "3245,3245,1,2c37 3246,3246,1,3341 3247,3247,1,4948 3260,3260,1,-2160 3261,3262,1,-215f",
  "3263,3265,1,-215e 3266,3266,1,-215d 3267,3268,1,-215c 3269,326d,1,-215b 326e,326e,1,7992",
  "326f,326f,1,7e29 3270,3270,1,8074 3271,3271,1,850b 3272,3272,1,8756 3273,3273,1,89a1",
  "3274,3274,1,8e38 3275,3275,1,92cf 3276,3276,1,951a 3277,3277,1,99b1 3278,3278,1,9bfc",
  "3279,3279,1,9e47 327a,327a,1,a092 327b,327b,1,a2dd 327e,327e,1,9432 3280,3280,1,1b80",
  "3281,3281,1,1c0b 3282,3282,1,1b87 3283,3283,1,2458 3284,3284,1,1c10 3285,3285,1,1ee8",
  "3286,3286,1,1b7d 3287,3287,1,1ee4 3288,3288,1,1bd5 3289,3289,1,20b8 328a,328a,1,347e",
  "328b,328b,1,3de0 328c,328c,1,39a8 328d,328d,1,349b 328e,328e,1,5f43 328f,328f,1,2490",
  "3290,3290,1,3355 3291,3291,1,3599 3292,3292,1,3477 3293,3293,1,46ab 3294,3294,1,2179",
  "3295,3295,1,3fe4 3296,3296,1,5a0b 3297,3297,1,46c6 3298,3298,1,201c 3299,3299,1,473f",
  "329a,329a,1,429d 329b,329b,1,26d8 329c,329c,1,5dcd 329d,329d,1,1e8d 329e,329e,1,20d2",
  "329f,329f,1,3a49 32a0,32a0,1,6565 32a1,32a1,1,1c70 32a2,32a2,1,1ef7 32a3,32a3,1,38c0",
  "32a4,32a4,1,1b66 32a5,32a5,1,1b88 32a6,32a6,1,1b65 32a7,32a7,1,2b3f 32a8,32a8,1,214b",
  "32a9,32a9,1,2092 32aa,32aa,1,28ed 32ab,32ab,1,28bb 32ac,32ac,1,4437 32ad,32ad,1,1c54",
  "32ae,32ae,1,5a19 32af,32af,1,20a5 32b0,32b0,1,266c 32d0,32d0,1,-22e 32d1,32d1,1,-22d",
  "32d2,32d2,1,-22c 32d3,32d3,1,-22b 32d4,32d5,1,-22a 32d6,32d6,1,-229 32d7,32d7,1,-228",
  "32d8,32d8,1,-227 32d9,32d9,1,-226 32da,32da,1,-225 32db,32db,1,-224 32dc,32dc,1,-223",
  "32dd,32dd,1,-222 32de,32de,1,-221 32df,32df,1,-220 32e0,32e0,1,-21f 32e1,32e1,1,-21d",
  "32e2,32e2,1,-21c 32e3,32e3,1,-21b 32e4,32e9,1,-21a 32ea,32ea,1,-218 32eb,32eb,1,-216",
  "32ec,32ec,1,-214 32ed,32ed,1,-212 32ee,32f2,1,-210 32f3,32f3,1,-20f 32f4,32f4,1,-20e",
  "32f5,32fa,1,-20d 32fb,32fe,1,-20c a640,a66c,2,1 a680,a69a,2,1 a69c,a69c,1,-a252",
  "a69d,a69d,1,-a251 a722,a72e,2,1 a732,a76e,2,1 a770,a770,1,-1 a779,a77b,2,1 a77d,a77d,1,-8a04",
  "a77e,a786,2,1 a78b,a78b,1,1 a78d,a78d,1,-a528 a790,a792,2,1 a796,a7a8,2,1 a7aa,a7aa,1,-a544",
  "a7ab,a7ab,1,-a54f a7ac,a7ac,1,-a54b a7ad,a7ad,1,-a541 a7ae,a7ae,1,-a544 a7b0,a7b0,1,-a512",
  "a7b1,a7b1,1,-a52a a7b2,a7b2,1,-a515 a7b3,a7b3,1,3a0 a7b4,a7c2,2,1 a7c4,a7c4,1,-30",
  "a7c5,a7c5,1,-a543 a7c6,a7c6,1,-8a38 a7c7,a7c9,2,1 a7cb,a7cb,1,-a567 a7cc,a7da,2,1",
  "a7dc,a7dc,1,-a641 a7f1,a7f1,1,-a77e a7f2,a7f2,1,-a78f a7f3,a7f3,1,-a78d a7f4,a7f4,1,-a783",
  "a7f5,a7f5,1,1 a7f8,a7f8,1,-a6d1 a7f9,a7f9,1,-a6a6 ab5c,ab5c,1,-435 ab5d,ab5d,1,-26",
  "ab5e,ab5e,1,-a8f3 ab5f,ab5f,1,-d ab69,ab69,1,-a8dc ab70,abbf,1,-97d0 f900,f900,1,-6cb8",
  "f901,f901,1,-920d f902,f902,1,-6a38 f903,f903,1,-6c3b f904,f904,1,-8a33 f905,f905,1,-aad3",
  "f906,f906,1,-a521 f907,f907,1,-596b f908,f908,1,-596c f909,f909,1,-9fb8 f90a,f90a,1,-6739",
  "f90b,f90b,1,-a384 f90c,f90c,1,-9fc4 f90d,f90d,1,-9717 f90e,f90e,1,-82a5 f90f,f90f,1,-798a",
  "f910,f910,1,-72d1 f911,f911,1,-7157 f912,f912,1,-701a f913,f913,1,-6884 f914,f914,1,-8f12",
  "f915,f915,1,-8bfa f916,f916,1,-883d f917,f917,1,-8539 f918,f918,1,-74db f919,f919,1,-67af",
  "f91a,f91a,1,-5f29 f91b,f91b,1,-aa99 f91c,f91c,1,-a5a7 f91d,f91d,1,-8e19 f91e,f91e,1,-8703",
  "f91f,f91f,1,-72f2 f920,f920,1,-5b02 f921,f921,1,-9bd1 f922,f922,1,-8937 f923,f923,1,-7356",
  "f924,f924,1,-6fc0 f925,f925,1,-965c f926,f926,1,-774e f927,f927,1,-7108 f928,f928,1,-9a5e",
  "f929,f929,1,-9212 f92a,f92a,1,-8bc0 f92b,f92b,1,-862f f92c,f92c,1,-685e f92d,f92d,1,-a9a7",
  "f92e,f92e,1,-a777 f92f,f92f,1,-a651 f930,f930,1,-946c f931,f931,1,-8e5e f932,f932,1,-8722",
  "f933,f933,1,-824c f934,f934,1,-7933 f935,f935,1,-732f f936,f936,1,-72da f937,f937,1,-6b48",
  "f938,f938,1,-6206 f939,f939,1,-5dca f93a,f93a,1,-5b40 f93b,f93b,1,-80af f93c,f93c,1,-7fbd",
  "f93d,f93d,1,-7b9d f93e,f93e,1,-7575 f93f,f93f,1,-663b f940,f940,1,-5ac1 f941,f941,1,-6e6b",
  "f942,f942,1,-a063 f943,f943,1,-9a3f f944,f944,1,-7ce4 f945,f945,1,-78c7 f946,f946,1,-86e4",
  "f947,f947,1,-807d f948,f948,1,-6c86 f949,f949,1,-6252 f94a,f94a,1,-a072 f94b,f94b,1,-9ce9",
  "f94c,f94c,1,-8f39 f94d,f94d,1,-8b73 f94e,f94e,1,-8a3f f94f,f94f,1,-7c20 f950,f950,1,-7b19",
  "f951,f951,1,-6306 f952,f952,1,-a680 f953,f953,1,-78c8 f954,f954,1,-a778 f955,f955,1,-a789",
  "f956,f956,1,-7f3a f957,f957,1,-7b99 f958,f958,1,-7567 f959,f959,1,-62e4 f95a,f95a,1,-6dda",
  "f95b,f95b,1,-968c f95c,f95c,1,-8f5a f95d,f95d,1,-6e5f f95e,f95e,1,-ab25 f95f,f95f,1,-9d78",
  "f960,f960,1,-994e f961,f961,1,-85da f962,f962,1,-83f2 f963,f963,1,-a64c f964,f964,1,-8069",
  "f965,f965,1,-a9a6 f966,f966,1,-99bd f967,f967,1,-ab5a f968,f968,1,-8c9c f969,f969,1,-93f1",
  "f96a,f96a,1,-7c48 f96b,f96b,1,-a5a8 f96c,f96c,1,-a10e f96d,f96d,1,-826c f96e,f96e,1,-7525",
  "f96f,f96f,1,-6ec5 f970,f970,1,-8db6 f971,f971,1,-69c1 f972,f972,1,-8cea f973,f973,1,-9675",
  "f974,f974,1,-768f f975,f975,1,-95d5 f976,f976,1,-8411 f977,f977,1,-aac9 f978,f978,1,-a80f",
  "f979,f979,1,-a7b0 f97a,f97a,1,-90f9 f97b,f97b,1,-7c94 f97c,f97c,1,-770d f97d,f97d,1,-6eab",
  "f97e,f97e,1,-67af f97f,f97f,1,-a68a f980,f980,1,-a53e f981,f981,1,-a00e f982,f982,1,-9a96",
  "f983,f983,1,-93be f984,f984,1,-8986 f985,f985,1,-805b f986,f986,1,-63d9 f987,f987,1,-5f1d",
  "f988,f988,1,-5af1 f989,f989,1,-5abb f98a,f98a,1,-a6ef f98b,f98b,1,-92c5 f98c,f98c,1,-8e15",
  "f98d,f98d,1,-6a2b f98e,f98e,1,-9b1a f98f,f98f,1,-97ff f990,f990,1,-9790 f991,f991,1,-94f7",
  "f992,f992,1,-8a6f f993,f993,1,-884a f994,f994,1,-850b f995,f995,1,-7fcb f996,f996,1,-7ba2",
  "f997,f997,1,-7928 f998,f998,1,-6a72 f999,f999,1,-74ab f99a,f99a,1,-6977 f99b,f99b,1,-6651",
  "f99c,f99c,1,-a785 f99d,f99d,1,-a6fa f99e,f99e,1,-a4e1 f99f,f99f,1,-88d7 f9a0,f9a0,1,-70de",
  "f9a1,f9a1,1,-6ef7 f9a2,f9a2,1,-9ad9 f9a3,f9a3,1,-99ae f9a4,f9a4,1,-9629 f9a5,f9a5,1,-8df7",
  "f9a6,f9a6,1,-7d68 f9a7,f9a7,1,-8632 f9a8,f9a8,1,-aac4 f9a9,f9a9,1,-a2b0 f9aa,f9aa,1,-9dc3",
  "f9ab,f9ab,1,-9bf1 f9ac,f9ac,1,-9990 f9ad,f9ad,1,-85fb f9ae,f9ae,1,-8545 f9af,f9af,1,-7a15",
  "f9b0,f9b0,1,-796a f9b1,f9b1,1,-677d f9b2,f9b2,1,-62bc f9b3,f9b3,1,-626b f9b4,f9b4,1,-619c",
  "f9b5,f9b5,1,-aa2a f9b6,f9b6,1,-8008 f9b7,f9b7,1,-6803 f9b8,f9b8,1,-6300 f9b9,f9b9,1,-98d8",
  "f9ba,f9ba,1,-ab34 f9bb,f9bb,1,-a8e1 f9bc,f9bc,1,-9dce f9bd,f9bd,1,-9d7e f9be,f9be,1,-9425",
  "f9bf,f9bf,1,-8fbd f9c0,f9c0,1,-87f2 f9c1,f9c1,1,-837f f9c2,f9c2,1,-74c6 f9c3,f9c3,1,-6947",
  "f9c4,f9c4,1,-5a37 f9c5,f9c5,1,-933d f9c6,f9c6,1,-6398 f9c7,f9c7,1,-a73e f9c8,f9c8,1,-924d",
  "f9c9,f9c9,1,-91d6 f9ca,f9ca,1,-8c89 f9cb,f9cb,1,-8b2f f9cc,f9cc,1,-85c3 f9cd,f9cd,1,-8474",
  "f9ce,f9ce,1,-8163 f9cf,f9cf,1,-7cbf f9d0,f9d0,1,-6172 f9d1,f9d1,1,-a864 f9d2,f9d2,1,-97a4",
  "f9d3,f9d3,1,-635b f9d4,f9d4,1,-a9a9 f9d5,f9d5,1,-9cbc f9d6,f9d6,1,-8bec f9d7,f9d7,1,-6aad",
  "f9d8,f9d8,1,-9a4d f9d9,f9d9,1,-9895 f9da,f9da,1,-91c3 f9db,f9db,1,-8654 f9dc,f9dc,1,-6356",
  "f9dd,f9dd,1,-a7b4 f9de,f9de,1,-a5cf f9df,f9df,1,-9d7a f9e0,f9e0,1,-93cd f9e1,f9e1,1,-9293",
  "f9e2,f9e2,1,-913a f9e3,f9e3,1,-8cfe f9e4,f9e4,1,-85de f9e5,f9e5,1,-8403 f9e6,f9e6,1,-7a6d",
  "f9e7,f9e7,1,-7118 f9e8,f9e8,1,-7107 f9e9,f9e9,1,-681d f9ea,f9ea,1,-6308 f9eb,f9eb,1,-a6ac",
  "f9ec,f9ec,1,-8b32 f9ed,f9ed,1,-a5d0 f9ee,f9ee,1,-881e f9ef,f9ef,1,-8557 f9f0,f9f0,1,-73f6",
  "f9f1,f9f1,1,-634e f9f2,f9f2,1,-5d9b f9f3,f9f3,1,-5b54 f9f4,f9f4,1,-925d f9f5,f9f5,1,-8c2a",
  "f9f6,f9f6,1,-780e f9f7,f9f7,1,-7f2c f9f8,f9f8,1,-7ed8 f9f9,f9f9,1,-7d67 f9fa,f9fa,1,-873a",
  "f9fb,f9fb,1,-8962 f9fc,f9fc,1,-6ea4 f9fd,f9fd,1,-ab3d f9fe,f9fe,1,-76c8 f9ff,f9ff,1,-a7c5",
  "fa00,fa00,1,-a7f9 fa01,fa01,1,-9b5b fa02,fa02,1,-972f fa03,fa03,1,-7d2d fa04,fa04,1,-9e7f",
  "fa05,fa05,1,-8ce7 fa06,fa06,1,-9352 fa07,fa07,1,-6acc fa08,fa08,1,-71bc fa09,fa09,1,-63bc",
  "fa0a,fa0a,1,-707f fa0b,fa0b,1,-9b38 fa0c,fa0c,1,-a8cc fa0d,fa0d,1,-a44d fa10,fa10,1,-a1b6",
  "fa12,fa12,1,-939e fa15,fa15,1,-a837 fa16,fa16,1,-86ec fa17,fa17,1,-834d fa18,fa18,1,-80dc",
  "fa19,fa19,1,-80bb fa1a,fa1a,1,-80b5 fa1b,fa1b,1,-808c fa1c,fa1c,1,-62c6 fa1d,fa1d,1,-7d5f",
  "fa1e,fa1e,1,-7a61 fa20,fa20,1,-740e fa22,fa22,1,-6f2a fa25,fa25,1,-69ed fa26,fa26,1,-6929",
  "fa2a,fa2a,1,-613b fa2b,fa2b,1,-612f fa2c,fa2c,1,-6104 fa2d,fa2d,1,-5c79 fa2e,fa2e,1,-6950",
  "fa2f,fa2f,1,-6378 fa30,fa30,1,-aa82 fa31,fa31,1,-a94a fa32,fa32,1,-a8e5 fa33,fa33,1,-a76a",
  "fa34,fa34,1,-a750 fa35,fa35,1,-a6e4 fa36,fa36,1,-a499 fa37,fa37,1,-a431 fa38,fa38,1,-a3d0",
  "fa39,fa39,1,-a1f9 fa3a,fa3a,1,-a192 fa3b,fa3b,1,-9dd7 fa3c,fa3c,1,-9dce fa3d,fa3d,1,-99a9",
  "fa3e,fa3e,1,-98d6 fa3f,fa3f,1,-98b1 fa40,fa40,1,-984e fa41,fa41,1,-94f2 fa42,fa42,1,-9460",
  "fa43,fa43,1,-93b2 fa44,fa44,1,-91bf fa45,fa45,1,-8cce fa46,fa46,1,-8c2c fa47,fa47,1,-8b25",
  "fa48,fa48,1,-88da fa49,fa49,1,-881e fa4a,fa4a,1,-8628 fa4b,fa4b,1,-81ba fa4c,fa4c,1,-810e",
  "fa4d,fa4d,1,-8104 fa4e,fa4e,1,-8106 fa4f,fa4f,1,-80ff fa50,fa50,1,-80fa fa51,fa51,1,-80f4",
  "fa52,fa53,1,-80c5 fa54,fa54,1,-8014 fa55,fa55,1,-7fd4 fa56,fa56,1,-7e96 fa57,fa57,1,-7c63",
  "fa58,fa58,1,-7c4f fa59,fa59,1,-7c18 fa5a,fa5a,1,-7ae8 fa5b,fa5b,1,-7a56 fa5c,fa5c,1,-786f",
  "fa5d,fa5d,1,-77e4 fa5e,fa5e,1,-77e5 fa5f,fa5f,1,-7608 fa60,fa60,1,-7150 fa61,fa61,1,-70cb",
  "fa62,fa62,1,-6f61 fa63,fa63,1,-6f2a fa64,fa64,1,-6d91 fa65,fa65,1,-6d5d fa66,fa66,1,-6ab0",
  "fa67,fa67,1,-6a2f fa68,fa68,1,-6385 fa69,fa69,1,-626a fa6a,fa6a,1,-622f fa6b,fa6b,1,-99f6",
  "fa6c,fa6c,1,14882 fa6d,fa6d,1,-7855 fa70,fa70,1,-ac4a fa71,fa71,1,-a8bc fa72,fa72,1,-a90a",
  "fa73,fa73,1,-aaf3 fa74,fa74,1,-a92f fa75,fa75,1,-a8f5 fa76,fa76,1,-a7af fa77,fa77,1,-a77d",
  "fa78,fa78,1,-a4db fa79,fa79,1,-a524 fa7a,fa7a,1,-a4e1 fa7b,fa7b,1,-a499 fa7c,fa7c,1,-a222",
  "fa7d,fa7d,1,-a1ca fa7e,fa7e,1,-a13a fa7f,fa7f,1,-a12b fa80,fa80,1,-a01e fa81,fa81,1,-9f59",
  "fa82,fa82,1,-9bb0 fa83,fa83,1,-9baa fa84,fa84,1,-9b1b fa85,fa85,1,-9ad8 fa86,fa86,1,-99ae",
  "fa87,fa87,1,-9939 fa88,fa88,1,-9980 fa89,fa89,1,-98fb fa8a,fa8a,1,-992a fa8b,fa8b,1,-9899",
  "fa8c,fa8c,1,-9858 fa8d,fa8d,1,-96c9 fa8e,fa8e,1,-9672 fa8f,fa8f,1,-963d fa90,fa90,1,-953a",
  "fa91,fa91,1,-941d fa92,fa92,1,-937b fa93,fa93,1,-9378 fa94,fa94,1,-933e fa95,fa95,1,-8f1c",
  "fa96,fa96,1,-8edc fa97,fa97,1,-8d56 fa98,fa98,1,-8bbd fa99,fa99,1,-8bce fa9a,fa9a,1,-8b78",
  "fa9b,fa9b,1,-8a7d fa9c,fa9c,1,-892e fa9d,fa9d,1,-82f6 fa9e,fa9e,1,-8869 fa9f,fa9f,1,-87f0",
  "faa0,faa0,1,-8776 faa1,faa1,1,-8630 faa2,faa2,1,-859c faa3,faa3,1,-8568 faa4,faa4,1,-8487",
  "faa5,faa5,1,-8486 faa6,faa6,1,-83dc faa7,faa7,1,-83cc faa8,faa8,1,-83b4 faa9,faa9,1,-835f",
  "faaa,faaa,1,-836a faab,faab,1,-81df faac,faac,1,-7ffb faad,faad,1,-7eed faae,faae,1,-7e33",
  "faaf,faaf,1,-7d54 fab0,fab0,1,-7cbc fab1,fab1,1,-7b73 fab2,fab2,1,-7aad fab3,fab3,1,-7761",
  "fab4,fab4,1,-76c5 fab5,fab5,1,-733c fab6,fab6,1,-7175 fab7,fab7,1,-7131 fab8,fab8,1,-7122",
  "fab9,fab9,1,-6ffa faba,faba,1,-6fc2 fabb,fabb,1,-6ff0 fabc,fabc,1,-6fbb fabd,fabd,1,-6fbf",
  "fabe,fabe,1,-6fd1 fabf,fabf,1,-6f86 fac0,fac0,1,-6f36 fac1,fac1,1,-6db9 fac2,fac2,1,-6b8a",
  "fac3,fac3,1,-6a51 fac4,fac4,1,-692b fac5,fac5,1,-684f fac6,fac6,1,-644a fac7,fac7,1,-63e4",
  "fac8,fac8,1,-6372 fac9,fac9,1,-62ee faca,faca,1,-62cb facb,facb,1,-62c0 facc,facc,1,-6291",
  "facd,facd,1,-5fbb face,face,1,-5b32 facf,facf,1,12d7b fad0,fad0,1,12d74 fad1,fad1,1,13904",
  "fad2,fad2,1,-bf35 fad3,fad3,1,-babb fad4,fad4,1,-ba9b fad5,fad5,1,15774 fad6,fad6,1,161fa",
  "fad7,fad7,1,183fc fad8,fad8,1,-5b95 fad9,fad9,1,-5b4b fb20,fb20,1,-f53e fb21,fb21,1,-f551",
  "fb22,fb23,1,-f54f fb24,fb26,1,-f549 fb27,fb27,1,-f53f fb28,fb28,1,-f53e fb29,fb29,1,-fafe",
  "fb50,fb50,1,-f4df fb51,fb51,1,-f4e0 fb52,fb52,1,-f4d7 fb53,fb53,1,-f4d8 fb54,fb54,1,-f4d9",
  "fb55,fb55,1,-f4da fb56,fb56,1,-f4d8 fb57,fb57,1,-f4d9 fb58,fb58,1,-f4da fb59,fb59,1,-f4db",
  "fb5a,fb5a,1,-f4da fb5b,fb5b,1,-f4db fb5c,fb5c,1,-f4dc fb5d,fb5d,1,-f4dd fb5e,fb5e,1,-f4e4",
  "fb5f,fb5f,1,-f4e5 fb60,fb60,1,-f4e6 fb61,fb61,1,-f4e7 fb62,fb62,1,-f4e3 fb63,fb63,1,-f4e4",
  "fb64,fb64,1,-f4e5 fb65,fb65,1,-f4e6 fb66,fb66,1,-f4ed fb67,fb67,1,-f4ee fb68,fb68,1,-f4ef",
  "fb69,fb69,1,-f4f0 fb6a,fb6a,1,-f4c6 fb6b,fb6b,1,-f4c7 fb6c,fb6c,1,-f4c8 fb6d,fb6d,1,-f4c9",
  "fb6e,fb6e,1,-f4c8 fb6f,fb6f,1,-f4c9 fb70,fb70,1,-f4ca fb71,fb71,1,-f4cb fb72,fb72,1,-f4ee",
  "fb73,fb73,1,-f4ef fb74,fb74,1,-f4f0 fb75,fb75,1,-f4f1 fb76,fb76,1,-f4f3 fb77,fb77,1,-f4f4",
  "fb78,fb78,1,-f4f5 fb79,fb79,1,-f4f6 fb7a,fb7a,1,-f4f4 fb7b,fb7b,1,-f4f5 fb7c,fb7c,1,-f4f6",
  "fb7d,fb7e,1,-f4f7 fb7f,fb7f,1,-f4f8 fb80,fb80,1,-f4f9 fb81,fb81,1,-f4fa fb82,fb82,1,-f4f5",
  "fb83,fb83,1,-f4f6 fb84,fb84,1,-f4f8 fb85,fb85,1,-f4f9 fb86,fb86,1,-f4f8 fb87,fb87,1,-f4f9",
  "fb88,fb88,1,-f500 fb89,fb89,1,-f501 fb8a,fb8a,1,-f4f2 fb8b,fb8b,1,-f4f3 fb8c,fb8c,1,-f4fb",
  "fb8d,fb8d,1,-f4fc fb8e,fb8e,1,-f4e5 fb8f,fb8f,1,-f4e6 fb90,fb90,1,-f4e7 fb91,fb91,1,-f4e8",
  "fb92,fb92,1,-f4e3 fb93,fb93,1,-f4e4 fb94,fb94,1,-f4e5 fb95,fb95,1,-f4e6 fb96,fb96,1,-f4e3",
  "fb97,fb97,1,-f4e4 fb98,fb98,1,-f4e5 fb99,fb99,1,-f4e6 fb9a,fb9a,1,-f4e9 fb9b,fb9b,1,-f4ea",
  "fb9c,fb9c,1,-f4eb fb9d,fb9d,1,-f4ec fb9e,fb9e,1,-f4e4 fb9f,fba0,1,-f4e5 fba1,fba1,1,-f4e6",
  "fba2,fba2,1,-f4e7 fba3,fba3,1,-f4e8 fba4,fba4,1,-f4e4 fba5,fba6,1,-f4e5 fba7,fba7,1,-f4e6",
  "fba8,fba8,1,-f4e7 fba9,fba9,1,-f4e8 fbaa,fbaa,1,-f4ec fbab,fbab,1,-f4ed fbac,fbac,1,-f4ee",
  "fbad,fbad,1,-f4ef fbae,fbae,1,-f4dc fbaf,fbb0,1,-f4dd fbb1,fbb1,1,-f4de fbd3,fbd3,1,-f526",
  "fbd4,fbd4,1,-f527 fbd5,fbd5,1,-f528 fbd6,fbd6,1,-f529 fbd7,fbd7,1,-f510 fbd8,fbd8,1,-f511",
  "fbd9,fbd9,1,-f513 fbda,fbda,1,-f514 fbdb,fbdb,1,-f513 fbdc,fbdc,1,-f514 fbde,fbde,1,-f513",
  "fbdf,fbdf,1,-f514 fbe0,fbe0,1,-f51b fbe1,fbe1,1,-f51c fbe2,fbe2,1,-f519 fbe3,fbe3,1,-f51a",
  "fbe4,fbe4,1,-f514 fbe5,fbe5,1,-f515 fbe6,fbe6,1,-f516 fbe7,fbe7,1,-f517 fbe8,fbe8,1,-f59f",
  "fbe9,fbe9,1,-f5a0 fbfc,fbfc,1,-f530 fbfd,fbfd,1,-f531 fbfe,fbfe,1,-f532 fbff,fbff,1,-f533",
  "fe10,fe10,1,-fde4 fe11,fe11,1,-ce10 fe13,fe14,1,-fdd9 fe15,fe15,1,-fdf4 fe16,fe16,1,-fdd7",
  "fe17,fe18,1,-ce01 fe31,fe31,1,-de1d fe32,fe32,1,-de1f fe33,fe33,1,-fdd4 fe34,fe34,1,-fdd5",
  "fe35,fe36,1,-fe0d fe37,fe37,1,-fdbc fe38,fe38,1,-fdbb fe39,fe3a,1,-ce25 fe3b,fe3c,1,-ce2b",
  "fe3d,fe3e,1,-ce33 fe3f,fe40,1,-ce37 fe41,fe44,1,-ce35 fe47,fe47,1,-fdec fe48,fe48,1,-fdeb",
  "fe4d,fe4d,1,-fdee fe4e,fe4e,1,-fdef fe4f,fe4f,1,-fdf0 fe50,fe50,1,-fe24 fe51,fe51,1,-ce50",
  "fe54,fe54,1,-fe19 fe55,fe55,1,-fe1b fe56,fe56,1,-fe17 fe57,fe57,1,-fe36 fe58,fe58,1,-de44",
  "fe59,fe5a,1,-fe31 fe5b,fe5b,1,-fde0 fe5c,fe5c,1,-fddf fe5d,fe5e,1,-ce49 fe5f,fe5f,1,-fe3c",
  "fe60,fe60,1,-fe3a fe61,fe62,1,-fe37 fe63,fe63,1,-fe36 fe64,fe64,1,-fe28 fe65,fe65,1,-fe27",
  "fe66,fe66,1,-fe29 fe68,fe68,1,-fe0c fe69,fe6a,1,-fe45 fe6b,fe6b,1,-fe2b fe80,fe81,1,-f85f",
  "fe82,fe83,1,-f860 fe84,fe85,1,-f861 fe86,fe87,1,-f862 fe88,fe89,1,-f863 fe8a,fe8a,1,-f864",
  "fe8b,fe8b,1,-f865 fe8c,fe8d,1,-f866 fe8e,fe8f,1,-f867 fe90,fe90,1,-f868 fe91,fe91,1,-f869",
  "fe92,fe93,1,-f86a fe94,fe95,1,-f86b fe96,fe96,1,-f86c fe97,fe97,1,-f86d fe98,fe99,1,-f86e",
  "fe9a,fe9a,1,-f86f fe9b,fe9b,1,-f870 fe9c,fe9d,1,-f871 fe9e,fe9e,1,-f872 fe9f,fe9f,1,-f873",
  "fea0,fea1,1,-f874 fea2,fea2,1,-f875 fea3,fea3,1,-f876 fea4,fea5,1,-f877 fea6,fea6,1,-f878",
  "fea7,fea7,1,-f879 fea8,fea9,1,-f87a feaa,feab,1,-f87b feac,fead,1,-f87c feae,feaf,1,-f87d",
  "feb0,feb1,1,-f87e feb2,feb2,1,-f87f feb3,feb3,1,-f880 feb4,feb5,1,-f881 feb6,feb6,1,-f882",
  "feb7,feb7,1,-f883 feb8,feb9,1,-f884 feba,feba,1,-f885 febb,febb,1,-f886 febc,febd,1,-f887",
  "febe,febe,1,-f888 febf,febf,1,-f889 fec0,fec1,1,-f88a fec2,fec2,1,-f88b fec3,fec3,1,-f88c",
  "fec4,fec5,1,-f88d fec6,fec6,1,-f88e fec7,fec7,1,-f88f fec8,fec9,1,-f890 feca,feca,1,-f891",
  "fecb,fecb,1,-f892 fecc,fecd,1,-f893 fece,fece,1,-f894 fecf,fecf,1,-f895 fed0,fed0,1,-f896",
  "fed1,fed1,1,-f890 fed2,fed2,1,-f891 fed3,fed3,1,-f892 fed4,fed5,1,-f893 fed6,fed6,1,-f894",
  "fed7,fed7,1,-f895 fed8,fed9,1,-f896 feda,feda,1,-f897 fedb,fedb,1,-f898 fedc,fedd,1,-f899",
  "fede,fede,1,-f89a fedf,fedf,1,-f89b fee0,fee1,1,-f89c fee2,fee2,1,-f89d fee3,fee3,1,-f89e",
  "fee4,fee5,1,-f89f fee6,fee6,1,-f8a0 fee7,fee7,1,-f8a1 fee8,fee9,1,-f8a2 feea,feea,1,-f8a3",
  "feeb,feeb,1,-f8a4 feec,feed,1,-f8a5 feee,feef,1,-f8a6 fef0,fef1,1,-f8a7 fef2,fef2,1,-f8a8",
  "fef3,fef3,1,-f8a9 fef4,fef4,1,-f8aa ff01,ff20,1,-fee0 ff21,ff3a,1,-fec0 ff3b,ff5e,1,-fee0",
  "ff5f,ff60,1,-d5da ff61,ff61,1,-ff33 ff62,ff63,1,-cf56 ff64,ff64,1,-cf63 ff65,ff65,1,-ce6a",
  "ff66,ff66,1,-ce74 ff67,ff67,1,-cec6 ff68,ff68,1,-cec5 ff69,ff69,1,-cec4 ff6a,ff6a,1,-cec3",
  "ff6b,ff6b,1,-cec2 ff6c,ff6c,1,-ce89 ff6d,ff6d,1,-ce88 ff6e,ff6e,1,-ce87 ff6f,ff6f,1,-ceac",
  "ff70,ff70,1,-ce74 ff71,ff71,1,-cecf ff72,ff72,1,-cece ff73,ff73,1,-cecd ff74,ff74,1,-cecc",
  "ff75,ff76,1,-cecb ff77,ff77,1,-ceca ff78,ff78,1,-cec9 ff79,ff79,1,-cec8 ff7a,ff7a,1,-cec7",
  "ff7b,ff7b,1,-cec6 ff7c,ff7c,1,-cec5 ff7d,ff7d,1,-cec4 ff7e,ff7e,1,-cec3 ff7f,ff7f,1,-cec2",
  "ff80,ff80,1,-cec1 ff81,ff81,1,-cec0 ff82,ff82,1,-cebe ff83,ff83,1,-cebd ff84,ff84,1,-cebc",
  "ff85,ff8a,1,-cebb ff8b,ff8b,1,-ceb9 ff8c,ff8c,1,-ceb7 ff8d,ff8d,1,-ceb5 ff8e,ff8e,1,-ceb3",
  "ff8f,ff93,1,-ceb1 ff94,ff94,1,-ceb0 ff95,ff95,1,-ceaf ff96,ff9b,1,-ceae ff9c,ff9c,1,-cead",
  "ff9d,ff9d,1,-ceaa ff9e,ff9f,1,-cf05 ffa1,ffa2,1,-eea1 ffa3,ffa3,1,-edf9 ffa4,ffa4,1,-eea2",
  "ffa5,ffa6,1,-edf9 ffa7,ffa9,1,-eea4 ffaa,ffaf,1,-edfa ffb0,ffb0,1,-ee96 ffb1,ffb3,1,-eeab",
  "ffb4,ffb4,1,-ee93 ffb5,ffbe,1,-eeac ffc2,ffc7,1,-ee61 ffca,ffcf,1,-ee63 ffd2,ffd7,1,-ee65",
  "ffda,ffdc,1,-ee67 ffe0,ffe1,1,-ff3e ffe2,ffe2,1,-ff36 ffe4,ffe4,1,-ff3e ffe5,ffe5,1,-ff40",
  "ffe6,ffe6,1,-df3d ffe8,ffe8,1,-dae6 ffe9,ffec,1,-de59 ffed,ffed,1,-da4d ffee,ffee,1,-da23",
  "10400,10427,1,28 104b0,104d3,1,28 10570,1057a,1,27 1057c,1058a,1,27 1058c,10592,1,27",
  "10594,10595,1,27 10781,10782,1,-104b1 10783,10783,1,-1069d 10784,10784,1,-104eb",
  "10785,10785,1,-10532 10787,10787,1,-104e4 10788,10788,1,-5c22 10789,10789,1,-104e4",
  "1078a,1078a,1,-104e6 1078b,1078c,1,-10535 1078d,1078d,1,-e9fc 1078e,1078e,1,-10536",
  "1078f,1078f,1,-10531 10790,10790,1,-104e7 10791,10791,1,-1052d 10792,10792,1,-10530",
  "10793,10793,1,-10533 10794,10794,1,-104f9 10795,10795,1,-1066e 10796,10796,1,-104fa",
  "10797,10797,1,-10530 10798,10798,1,-10514 10799,1079a,1,-104ef 1079b,1079b,1,-1052f",
  "1079c,1079c,1,d768 1079d,1079d,1,-600f 1079e,1079e,1,-10530 1079f,1079f,1,d766",
  "107a0,107a0,1,-10512 107a1,107a1,1,d765 107a2,107a2,1,-106aa 107a3,107a4,1,-1052d",
  "107a5,107a5,1,-10734 107a6,107a6,1,-1052c 107a7,107a7,1,d761 107a8,107a9,1,-1052b",
  "107aa,107aa,1,-1052a 107ab,107ab,1,-10503 107ac,107ac,1,-10506 107ad,107ad,1,-5c46",
  "107ae,107ae,1,-10507 107af,107af,1,-10527 107b0,107b0,1,-db3f 107b2,107b2,1,-10523",
  "107b3,107b4,1,-10512 107b5,107b5,1,-1051d 107b6,107b8,1,-105f6 107b9,107b9,1,d751",
  "107ba,107ba,1,d764 10c80,10cb2,1,40 10d50,10d65,1,20 118a0,118bf,1,20 16e40,16e5f,1,20",
  "16ea0,16eb8,1,1b 1ccd6,1ccef,1,-1cc75 1ccf0,1ccf9,1,-1ccc0 1d400,1d419,1,-1d39f",
  "1d41a,1d433,1,-1d3b9 1d434,1d44d,1,-1d3d3 1d44e,1d454,1,-1d3ed 1d456,1d467,1,-1d3ed",
  "1d468,1d481,1,-1d407 1d482,1d49b,1,-1d421 1d49c,1d49e,2,-1d43b 1d49f,1d49f,1,-1d43b",
  "1d4a2,1d4a2,1,-1d43b 1d4a5,1d4a6,1,-1d43b 1d4a9,1d4ac,1,-1d43b 1d4ae,1d4b5,1,-1d43b",
  "1d4b6,1d4b9,1,-1d455 1d4bb,1d4bd,2,-1d455 1d4be,1d4c3,1,-1d455 1d4c5,1d4cf,1,-1d455",
  "1d4d0,1d4e9,1,-1d46f 1d4ea,1d503,1,-1d489 1d504,1d505,1,-1d4a3 1d507,1d50a,1,-1d4a3",
  "1d50d,1d514,1,-1d4a3 1d516,1d51c,1,-1d4a3 1d51e,1d537,1,-1d4bd 1d538,1d539,1,-1d4d7",
  "1d53b,1d53e,1,-1d4d7 1d540,1d544,1,-1d4d7 1d546,1d546,1,-1d4d7 1d54a,1d550,1,-1d4d7",
  "1d552,1d56b,1,-1d4f1 1d56c,1d585,1,-1d50b 1d586,1d59f,1,-1d525 1d5a0,1d5b9,1,-1d53f",
  "1d5ba,1d5d3,1,-1d559 1d5d4,1d5ed,1,-1d573 1d5ee,1d607,1,-1d58d 1d608,1d621,1,-1d5a7",
  "1d622,1d63b,1,-1d5c1 1d63c,1d655,1,-1d5db 1d656,1d66f,1,-1d5f5 1d670,1d689,1,-1d60f",
  "1d68a,1d6a3,1,-1d629 1d6a4,1d6a4,1,-1d573 1d6a5,1d6a5,1,-1d46e 1d6a8,1d6b8,1,-1d2f7",
  "1d6b9,1d6b9,1,-1d301 1d6ba,1d6c0,1,-1d2f7 1d6c1,1d6c1,1,-1b4ba 1d6c2,1d6d2,1,-1d311",
  "1d6d3,1d6d3,1,-1d310 1d6d4,1d6da,1,-1d311 1d6db,1d6db,1,-1b4d9 1d6dc,1d6dc,1,-1d327",
  "1d6dd,1d6dd,1,-1d325 1d6de,1d6de,1,-1d324 1d6df,1d6df,1,-1d319 1d6e0,1d6e0,1,-1d31f",
  "1d6e1,1d6e1,1,-1d321 1d6e2,1d6f2,1,-1d331 1d6f3,1d6f3,1,-1d33b 1d6f4,1d6fa,1,-1d331",
  "1d6fb,1d6fb,1,-1b4f4 1d6fc,1d70c,1,-1d34b 1d70d,1d70d,1,-1d34a 1d70e,1d714,1,-1d34b",
  "1d715,1d715,1,-1b513 1d716,1d716,1,-1d361 1d717,1d717,1,-1d35f 1d718,1d718,1,-1d35e",
  "1d719,1d719,1,-1d353 1d71a,1d71a,1,-1d359 1d71b,1d71b,1,-1d35b 1d71c,1d72c,1,-1d36b",
  "1d72d,1d72d,1,-1d375 1d72e,1d734,1,-1d36b 1d735,1d735,1,-1b52e 1d736,1d746,1,-1d385",
  "1d747,1d747,1,-1d384 1d748,1d74e,1,-1d385 1d74f,1d74f,1,-1b54d 1d750,1d750,1,-1d39b",
  "1d751,1d751,1,-1d399 1d752,1d752,1,-1d398 1d753,1d753,1,-1d38d 1d754,1d754,1,-1d393",
  "1d755,1d755,1,-1d395 1d756,1d766,1,-1d3a5 1d767,1d767,1,-1d3af 1d768,1d76e,1,-1d3a5",
  "1d76f,1d76f,1,-1b568 1d770,1d780,1,-1d3bf 1d781,1d781,1,-1d3be 1d782,1d788,1,-1d3bf",
  "1d789,1d789,1,-1b587 1d78a,1d78a,1,-1d3d5 1d78b,1d78b,1,-1d3d3 1d78c,1d78c,1,-1d3d2",
  "1d78d,1d78d,1,-1d3c7 1d78e,1d78e,1,-1d3cd 1d78f,1d78f,1,-1d3cf 1d790,1d7a0,1,-1d3df",
  "1d7a1,1d7a1,1,-1d3e9 1d7a2,1d7a8,1,-1d3df 1d7a9,1d7a9,1,-1b5a2 1d7aa,1d7ba,1,-1d3f9",
  "1d7bb,1d7bb,1,-1d3f8 1d7bc,1d7c2,1,-1d3f9 1d7c3,1d7c3,1,-1b5c1 1d7c4,1d7c4,1,-1d40f",
  "1d7c5,1d7c5,1,-1d40d 1d7c6,1d7c6,1,-1d40c 1d7c7,1d7c7,1,-1d401 1d7c8,1d7c8,1,-1d407",
  "1d7c9,1d7c9,1,-1d409 1d7ca,1d7ca,1,-1d3ed 1d7cb,1d7cb,1,-1d3ee 1d7ce,1d7d7,1,-1d79e",
  "1d7d8,1d7e1,1,-1d7a8 1d7e2,1d7eb,1,-1d7b2 1d7ec,1d7f5,1,-1d7bc 1d7f6,1d7ff,1,-1d7c6",
  "1e030,1e038,1,-1dc00 1e039,1e03b,1,-1dbff 1e03c,1e046,1,-1dbfe 1e047,1e047,1,-1dbfc",
  "1e048,1e049,1,-1dbfb 1e04a,1e04a,1,-139c1 1e04b,1e04b,1,-1db72 1e04c,1e04c,1,-1dbf6",
  "1e04d,1e04d,1,-1dbf5 1e04e,1e04e,1,-1db65 1e04f,1e04f,1,-1dba0 1e050,1e050,1,-1db81",
  "1e051,1e059,1,-1dc21 1e05a,1e05b,1,-1dc20 1e05c,1e05d,1,-1dc1e 1e05e,1e05e,1,-1dc1d",
  "1e05f,1e064,1,-1dc1c 1e065,1e066,1,-1dc1b 1e067,1e067,1,-1dbd6 1e068,1e068,1,-1dc12",
  "1e069,1e069,1,-1dc14 1e06a,1e06a,1,-1dc0b 1e06b,1e06b,1,-1dbc0 1e06c,1e06c,1,-13a1b",
  "1e06d,1e06d,1,-1dbbc 1e900,1e921,1,22 1ee00,1ee01,1,-1e7d9 1ee02,1ee02,1,-1e7d6",
  "1ee03,1ee03,1,-1e7d4 1ee05,1ee05,1,-1e7bd 1ee06,1ee06,1,-1e7d4 1ee07,1ee07,1,-1e7da",
  "1ee08,1ee08,1,-1e7d1 1ee09,1ee09,1,-1e7bf 1ee0a,1ee0d,1,-1e7c7 1ee0e,1ee0e,1,-1e7db",
  "1ee0f,1ee0f,1,-1e7d6 1ee10,1ee10,1,-1e7cf 1ee11,1ee11,1,-1e7dc 1ee12,1ee12,1,-1e7d0",
  "1ee13,1ee13,1,-1e7e2 1ee14,1ee14,1,-1e7e0 1ee15,1ee16,1,-1e7eb 1ee17,1ee17,1,-1e7e9",
  "1ee18,1ee18,1,-1e7e8 1ee19,1ee19,1,-1e7e3 1ee1a,1ee1a,1,-1e7e2 1ee1b,1ee1b,1,-1e7e1",
  "1ee1c,1ee1c,1,-1e7ae 1ee1d,1ee1d,1,-1e763 1ee1e,1ee1e,1,-1e77d 1ee1f,1ee1f,1,-1e7b0",
  "1ee21,1ee21,1,-1e7f9 1ee22,1ee22,1,-1e7f6 1ee24,1ee24,1,-1e7dd 1ee27,1ee27,1,-1e7fa",
  "1ee29,1ee29,1,-1e7df 1ee2a,1ee2d,1,-1e7e7 1ee2e,1ee2e,1,-1e7fb 1ee2f,1ee2f,1,-1e7f6",
  "1ee30,1ee30,1,-1e7ef 1ee31,1ee31,1,-1e7fc 1ee32,1ee32,1,-1e7f0 1ee34,1ee34,1,-1e800",
  "1ee35,1ee36,1,-1e80b 1ee37,1ee37,1,-1e809 1ee39,1ee39,1,-1e803 1ee3b,1ee3b,1,-1e801",
  "1ee42,1ee42,1,-1e816 1ee47,1ee47,1,-1e81a 1ee49,1ee49,1,-1e7ff 1ee4b,1ee4d,2,-1e807",
  "1ee4e,1ee4e,1,-1e81b 1ee4f,1ee4f,1,-1e816 1ee51,1ee51,1,-1e81c 1ee52,1ee52,1,-1e810",
  "1ee54,1ee54,1,-1e820 1ee57,1ee57,1,-1e829 1ee59,1ee59,1,-1e823 1ee5b,1ee5b,1,-1e821",
  "1ee5d,1ee5d,1,-1e7a3 1ee5f,1ee5f,1,-1e7f0 1ee61,1ee61,1,-1e839 1ee62,1ee62,1,-1e836",
  "1ee64,1ee64,1,-1e81d 1ee67,1ee67,1,-1e83a 1ee68,1ee68,1,-1e831 1ee69,1ee69,1,-1e81f",
  "1ee6a,1ee6c,2,-1e827 1ee6d,1ee6d,1,-1e827 1ee6e,1ee6e,1,-1e83b 1ee6f,1ee6f,1,-1e836",
  "1ee70,1ee70,1,-1e82f 1ee71,1ee71,1,-1e83c 1ee72,1ee72,1,-1e830 1ee74,1ee74,1,-1e840",
  "1ee75,1ee76,1,-1e84b 1ee77,1ee77,1,-1e849 1ee79,1ee79,1,-1e843 1ee7a,1ee7a,1,-1e842",
  "1ee7b,1ee7b,1,-1e841 1ee7c,1ee7c,1,-1e80e 1ee7e,1ee7e,1,-1e7dd 1ee80,1ee81,1,-1e859",
  "1ee82,1ee82,1,-1e856 1ee83,1ee83,1,-1e854 1ee84,1ee85,1,-1e83d 1ee86,1ee86,1,-1e854",
  "1ee87,1ee87,1,-1e85a 1ee88,1ee88,1,-1e851 1ee89,1ee89,1,-1e83f 1ee8b,1ee8d,1,-1e847",
  "1ee8e,1ee8e,1,-1e85b 1ee8f,1ee8f,1,-1e856 1ee90,1ee90,1,-1e84f 1ee91,1ee91,1,-1e85c",
  "1ee92,1ee92,1,-1e850 1ee93,1ee93,1,-1e862 1ee94,1ee94,1,-1e860 1ee95,1ee96,1,-1e86b",
  "1ee97,1ee97,1,-1e869 1ee98,1ee98,1,-1e868 1ee99,1ee99,1,-1e863 1ee9a,1ee9a,1,-1e862",
  "1ee9b,1ee9b,1,-1e861 1eea1,1eea1,1,-1e879 1eea2,1eea2,1,-1e876 1eea3,1eea3,1,-1e874",
  "1eea5,1eea5,1,-1e85d 1eea6,1eea6,1,-1e874 1eea7,1eea7,1,-1e87a 1eea8,1eea8,1,-1e871",
  "1eea9,1eea9,1,-1e85f 1eeab,1eead,1,-1e867 1eeae,1eeae,1,-1e87b 1eeaf,1eeaf,1,-1e876",
  "1eeb0,1eeb0,1,-1e86f 1eeb1,1eeb1,1,-1e87c 1eeb2,1eeb2,1,-1e870 1eeb3,1eeb3,1,-1e882",
  "1eeb4,1eeb4,1,-1e880 1eeb5,1eeb6,1,-1e88b 1eeb7,1eeb7,1,-1e889 1eeb8,1eeb8,1,-1e888",
  "1eeb9,1eeb9,1,-1e883 1eeba,1eeba,1,-1e882 1eebb,1eebb,1,-1e881 1f12b,1f12b,1,-1f0c8",
  "1f12c,1f12c,1,-1f0ba 1f130,1f149,1,-1f0cf 1f202,1f202,1,-1c14d 1f210,1f210,1,-18fc5",
  "1f211,1f211,1,-196ba 1f212,1f212,1,-19e46 1f213,1f213,1,-1c14c 1f214,1f214,1,-1a388",
  "1f215,1f215,1,-198fb 1f216,1f216,1,-16833 1f217,1f217,1,-198ee 1f218,1f218,1,-1a374",
  "1f219,1f219,1,-18bf9 1f21a,1f21a,1,-180f9 1f21b,1f21b,1,-18c82 1f21c,1f21c,1,-19fcf",
  "1f21d,1f21d,1,-19291 1f21e,1f21e,1,-1a091 1f21f,1f21f,1,-18c6f 1f220,1f220,1,-1a003",
  "1f221,1f221,1,-174df 1f222,1f222,1,-17d03 1f223,1f223,1,-1657a 1f224,1f224,1,-19934",
  "1f225,1f225,1,-19dec 1f226,1f226,1,-18312 1f227,1f227,1,-18f92 1f228,1f228,1,-18ed3",
  "1f229,1f229,1,-1a429 1f22a,1f22a,1,-1a421 1f22b,1f22b,1,-161e1 1f22c,1f22c,1,-19446",
  "1f22d,1f22d,1,-1a400 1f22e,1f22e,1,-19e3b 1f22f,1f22f,1,-18f28 1f230,1f230,1,-164c0",
  "1f231,1f231,1,-18fde 1f232,1f232,1,-178b1 1f233,1f233,1,-177b9 1f234,1f234,1,-19e2c",
  "1f235,1f235,1,-183b5 1f236,1f236,1,-18b2d 1f237,1f237,1,-18b2f 1f238,1f238,1,-17d05",
  "1f239,1f239,1,-19fc7 1f23a,1f23a,1,-19c84 1f23b,1f23b,1,-160ee 1f250,1f250,1,-192b9",
  "1f251,1f251,1,-19e62 1fbf0,1fbf9,1,-1fbc0 2f800,2f800,1,-2a9c3 2f801,2f801,1,-2a9c9",
  "2f802,2f802,1,-2a9c1 2f803,2f803,1,-f6e1 2f804,2f804,1,-2a8a4 2f805,2f805,1,-2a857",
  "2f806,2f806,1,-2a84b 2f807,2f807,1,-2a805 2f808,2f808,1,-2a78e 2f809,2f809,1,-2a770",
  "2f80a,2f80a,1,-2a723 2f80b,2f80b,1,-2a73c 2f80c,2f80c,1,-2c36e 2f80d,2f80d,1,-f1d3",
  "2f80e,2f80e,1,-2a6c1 2f80f,2f80f,1,-2a6bb 2f810,2f810,1,-2a6ac 2f811,2f811,1,-2a69a",
  "2f812,2f812,1,-f2f6 2f813,2f813,1,-2c35a 2f814,2f814,1,-2a6ad 2f815,2f815,1,-2a688",
  "2f816,2f816,1,-f2cb 2f817,2f817,1,-2a680 2f818,2f818,1,-2a674 2f819,2f819,1,-2a94d",
  "2f81a,2f81a,1,-2a66e 2f81b,2f81b,1,-2a666 2f81c,2f81c,1,-663d 2f81d,2f81d,1,-2a628",
  "2f81e,2f81e,1,-2a61b 2f81f,2f81f,1,-2c340 2f820,2f820,1,-2a5e5 2f821,2f821,1,-2a5db",
  "2f822,2f822,1,-2a5b0 2f823,2f823,1,-2a5ac 2f824,2f824,1,-2c30f 2f825,2f825,1,-2a55e",
  "2f826,2f826,1,-2a55d 2f827,2f827,1,-2a543 2f828,2f828,1,-2a52e 2f829,2f82a,1,-2a524",
  "2f82b,2f82b,1,-2a514 2f82c,2f82c,1,-2a4e3 2f82d,2f82d,1,-2a4dc 2f82e,2f82e,1,-2a4d4",
  "2f82f,2f82f,1,-2a4bc 2f830,2f830,1,-2a4b3 2f831,2f831,1,-2a4b2 2f832,2f832,1,-2a4b3",
  "2f833,2f833,1,-2a4b4 2f834,2f834,1,-ee08 2f835,2f835,1,-287c5 2f836,2f836,1,-2a46c",
  "2f837,2f837,1,-2a458 2f838,2f838,1,-ecd5 2f839,2f839,1,-2a44e 2f83a,2f83a,1,-2a449",
  "2f83b,2f83b,1,-2a435 2f83c,2f83c,1,-2a39e 2f83d,2f83d,1,-2a405 2f83e,2f83e,1,-2a3f6",
  "2f83f,2f83f,1,-2a3d7 2f840,2f840,1,-2a39e 2f841,2f841,1,-2a34b 2f842,2f842,1,-2a332",
  "2f843,2f843,1,-2a2f0 2f844,2f844,1,-2a2e1 2f845,2f845,1,-2a2c1 2f846,2f846,1,-2a2c2",
  "2f847,2f847,1,-2a2ae 2f848,2f848,1,-2a29d 2f849,2f849,1,-2a296 2f84a,2f84a,1,-2a288",
  "2f84b,2f84b,1,-2a135 2f84c,2f84c,1,-2a246 2f84d,2f84d,1,-2a136 2f84e,2f84e,1,-2a1fd",
  "2f84f,2f84f,1,-2a1db 2f850,2f850,1,-2a649 2f851,2f851,1,-29f63 2f852,2f852,1,-2a084",
  "2f853,2f853,1,-2a05f 2f854,2f854,1,-2a047 2f855,2f855,1,-2a0ca 2f856,2f856,1,-2a024",
  "2f857,2f857,1,-2a026 2f858,2f858,1,-29fac 2f859,2f859,1,-e375 2f85a,2f85a,1,-29f68",
  "2f85b,2f85b,1,-29f64 2f85c,2f85c,1,-29f56 2f85d,2f85d,1,-29f43 2f85e,2f85e,1,-29f3c",
  "2f85f,2f85f,1,-29efd 2f860,2f860,1,-e1b8 2f861,2f861,1,-e177 2f862,2f862,1,-29e76",
  "2f863,2f863,1,-29e48 2f864,2f864,1,-29e3d 2f865,2f865,1,-29e8d 2f866,2f866,1,-29e00",
  "2f867,2f867,1,-2c179 2f868,2f868,1,-2c16c 2f869,2f869,1,-29d61 2f86a,2f86a,1,-29d2c",
  "2f86b,2f86b,1,-29d2d 2f86c,2f86c,1,-dea4 2f86d,2f86d,1,-29caa 2f86e,2f86e,1,-29c96",
  "2f86f,2f86f,1,-29c88 2f870,2f870,1,-29c7d 2f871,2f871,1,-dd59 2f872,2f872,1,-29c73",
  "2f873,2f873,1,-29c6d 2f874,2f874,1,-29921 2f875,2f875,1,-29c53 2f876,2f876,1,-2c0f5",
  "2f877,2f877,1,-29c17 2f878,2f878,1,-29c0a 2f879,2f879,1,-29bb9 2f87a,2f87a,1,-29bed",
  "2f87b,2f87b,1,-da97 2f87c,2f87c,1,-29b39 2f87d,2f87d,1,-da97 2f87e,2f87e,1,-29b10",
  "2f87f,2f87f,1,-29b14 2f880,2f880,1,-29b04 2f881,2f882,1,-29aa0 2f883,2f883,1,-2c054",
  "2f884,2f884,1,-29a87 2f885,2f885,1,-29a5d 2f886,2f886,1,-29a49 2f887,2f887,1,-29a1e",
  "2f888,2f888,1,-2c026 2f889,2f889,1,-d706 2f88a,2f88a,1,-2c00e 2f88b,2f88b,1,-299db",
  "2f88c,2f88c,1,-299d9 2f88d,2f88d,1,-299d7 2f88e,2f88e,1,-299c4 2f88f,2f88f,1,-54fd",
  "2f890,2f890,1,-29992 2f891,2f891,1,-d560 2f892,2f892,1,-d561 2f893,2f893,1,-27692",
  "2f894,2f894,1,-29972 2f895,2f895,1,-29973 2f896,2f896,1,-2bfcf 2f897,2f897,1,-c5df",
  "2f898,2f898,1,-96be 2f899,2f899,1,-29937 2f89a,2f89a,1,-2992f 2f89b,2f89b,1,-2bfb8",
  "2f89c,2f89c,1,-29902 2f89d,2f89d,1,-298d0 2f89e,2f89e,1,-298c7 2f89f,2f89f,1,-298a6",
  "2f8a0,2f8a0,1,-2981f 2f8a1,2f8a1,1,-2bf67 2f8a2,2f8a2,1,-2bf86 2f8a3,2f8a3,1,-2980f",
  "2f8a4,2f8a4,1,-d1d0 2f8a5,2f8a5,1,-297de 2f8a6,2f8a6,1,-2975e 2f8a7,2f8a7,1,-2975b",
  "2f8a8,2f8a8,1,-2975a 2f8a9,2f8a9,1,-2975d 2f8aa,2f8aa,1,-29730 2f8ab,2f8ab,1,-2971d",
  "2f8ac,2f8ac,1,-296fa 2f8ad,2f8ad,1,-29709 2f8ae,2f8ae,1,-296ff 2f8af,2f8af,1,-296d1",
  "2f8b0,2f8b0,1,-296be 2f8b1,2f8b1,1,-296bb 2f8b2,2f8b2,1,-296a2 2f8b3,2f8b3,1,-29698",
  "2f8b4,2f8b4,1,-29657 2f8b5,2f8b5,1,-29604 2f8b6,2f8b6,1,-295e2 2f8b7,2f8b7,1,-29567",
  "2f8b8,2f8b8,1,-cdac 2f8b9,2f8b9,1,-2957c 2f8ba,2f8ba,1,-295be 2f8bb,2f8bb,1,-29553",
  "2f8bc,2f8bc,1,-29539 2f8bd,2f8bd,1,-294d9 2f8be,2f8be,1,-cccd 2f8bf,2f8bf,1,-2949d",
  "2f8c0,2f8c0,1,-294fb 2f8c1,2f8c1,1,-29518 2f8c2,2f8c2,1,-2be94 2f8c3,2f8c3,1,-2945a",
  "2f8c4,2f8c4,1,-29446 2f8c5,2f8c5,1,-29428 2f8c6,2f8c6,1,-2944f 2f8c7,2f8c7,1,-2be5b",
  "2f8c8,2f8c8,1,-29379 2f8c9,2f8c9,1,-2935d 2f8ca,2f8ca,1,-c8c0 2f8cb,2f8cb,1,-292e8",
  "2f8cc,2f8cc,1,-291d4 2f8cd,2f8cd,1,-29284 2f8ce,2f8ce,1,-2bdb5 2f8cf,2f8cf,1,-2923e",
  "2f8d0,2f8d0,1,-2bdc8 2f8d1,2f8d1,1,-2bded 2f8d2,2f8d2,1,-2a740 2f8d3,2f8d3,1,-2a73e",
  "2f8d4,2f8d4,1,-291d4 2f8d5,2f8d5,1,-29239 2f8d6,2f8d6,1,-27829 2f8d7,2f8d7,1,-2b4fe",
  "2f8d8,2f8d8,1,-291c1 2f8d9,2f8d9,1,-291be 2f8da,2f8da,1,-291b9 2f8db,2f8db,1,-2917d",
  "2f8dc,2f8dc,1,-29189 2f8dd,2f8dd,1,-c51a 2f8de,2f8de,1,-2bd95 2f8df,2f8df,1,-290e5",
  "2f8e0,2f8e0,1,-2915b 2f8e1,2f8e1,1,-2908f 2f8e2,2f8e2,1,-2905d 2f8e3,2f8e3,1,-c476",
  "2f8e4,2f8e4,1,-29056 2f8e5,2f8e5,1,-290c6 2f8e6,2f8e6,1,-28fd2 2f8e7,2f8e7,1,-2bd4a",
  "2f8e8,2f8e8,1,-28fa6 2f8e9,2f8e9,1,-28f46 2f8ea,2f8ea,1,-28f00 2f8eb,2f8eb,1,-28e43",
  "2f8ec,2f8ec,1,-c249 2f8ed,2f8ed,1,-28e12 2f8ee,2f8ee,1,-2bcd6 2f8ef,2f8ef,1,-28dce",
  "2f8f0,2f8f0,1,-c049 2f8f1,2f8f1,1,-28d9d 2f8f2,2f8f2,1,-2bca4 2f8f3,2f8f3,1,-28d81",
  "2f8f4,2f8f4,1,-28d55 2f8f5,2f8f6,1,-28d3b 2f8f7,2f8f7,1,-be6a 2f8f8,2f8f8,1,-dbed",
  "2f8f9,2f8f9,1,-bdff 2f8fa,2f8fa,1,-28cac 2f8fb,2f8fb,1,-bc3f 2f8fc,2f8fc,1,-28c3d",
  "2f8fd,2f8fd,1,-28c30 2f8fe,2f8fe,1,-28c97 2f8ff,2f8ff,1,-28be9 2f900,2f900,1,-28bc2",
  "2f901,2f901,1,-28b8a 2f902,2f902,1,-28bc1 2f903,2f903,1,-28b9a 2f904,2f904,1,-28b8c",
  "2f905,2f905,1,-28b80 2f906,2f906,1,-bbe8 2f907,2f907,1,-28bd3 2f908,2f908,1,-28ad9",
  "2f909,2f909,1,-28a9b 2f90a,2f90a,1,-2bbd7 2f90b,2f90b,1,-28a40 2f90c,2f90c,1,-28a45",
  "2f90d,2f90d,1,-ba3c 2f90e,2f90e,1,-28b15 2f90f,2f90f,1,-289a1 2f910,2f910,1,-b9b2",
  "2f911,2f911,1,-b983 2f912,2f912,1,-2894c 2f913,2f913,1,-288da 2f914,2f914,1,-288f6",
  "2f915,2f915,1,-288fa 2f916,2f916,1,-2bb80 2f917,2f917,1,-288cd 2f918,2f918,1,-2889b",
  "2f919,2f919,1,-288a2 2f91a,2f91a,1,-2886d 2f91b,2f91b,1,-f3f6 2f91c,2f91c,1,-287d7",
  "2f91d,2f91d,1,-b6ba 2f91e,2f91e,1,-28782 2f91f,2f91f,1,-b574 2f920,2f920,1,-286f8",
  "2f921,2f921,1,-286ec 2f922,2f922,1,-286d2 2f923,2f923,1,-b31b 2f924,2f924,1,-286a4",
  "2f925,2f925,1,-28690 2f926,2f926,1,-b1f1 2f927,2f927,1,-b113 2f928,2f928,1,-285ae",
  "2f929,2f929,1,-2859e 2f92a,2f92a,1,-2ba7e 2f92b,2f92b,1,-28586 2f92c,2f92c,1,-2ba74",
  "2f92d,2f92d,1,-2ba75 2f92e,2f92e,1,-284e7 2f92f,2f92f,1,-284d3 2f930,2f930,1,-284bf",
  "2f931,2f931,1,-284ac 2f932,2f932,1,-28468 2f933,2f933,1,-2ba18 2f934,2f934,1,-28410",
  "2f935,2f935,1,-acff 2f936,2f936,1,-283f8 2f937,2f937,1,-aca5 2f938,2f938,1,-283c8",
  "2f939,2f939,1,-d79a 2f93a,2f93a,1,-2832a 2f93b,2f93b,1,-a99a 2f93c,2f93c,1,-a984",
  "2f93d,2f93d,1,-a8f9 2f93e,2f93e,1,-2b942 2f93f,2f93f,1,-2b937 2f940,2f940,1,-2824c",
  "2f941,2f941,1,-a84e 2f942,2f942,1,-a850 2f943,2f943,1,-a82a 2f944,2f944,1,-a811",
  "2f945,2f946,1,-28227 2f947,2f947,1,-28228 2f948,2f948,1,-281fe 2f949,2f949,1,-2b910",
  "2f94a,2f94a,1,-281bf 2f94b,2f94b,1,-2b905 2f94c,2f94c,1,-2b8b6 2f94d,2f94d,1,-a530",
  "2f94e,2f94e,1,-28100 2f94f,2f94f,1,-280c3 2f950,2f950,1,-28084 2f951,2f951,1,-2b86e",
  "2f952,2f952,1,-a32c 2f953,2f953,1,-27ffd 2f954,2f954,1,-a2ba 2f955,2f955,1,-a290",
  "2f956,2f956,1,-27fc7 2f957,2f957,1,-27f6c 2f958,2f958,1,-2b829 2f959,2f959,1,-27f19",
  "2f95a,2f95a,1,-27f10 2f95b,2f95b,1,-27f0c 2f95c,2f95c,1,-9fe0 2f95d,2f95d,1,-9eb6",
  "2f95e,2f95e,1,-9eb7 2f95f,2f95f,1,-27e71 2f960,2f960,1,-2b75e 2f961,2f961,1,-9db6",
  "2f962,2f962,1,-27d9c 2f963,2f963,1,-27d9a 2f964,2f964,1,-2b73d 2f965,2f965,1,-9ce5",
  "2f966,2f966,1,-27c94 2f967,2f967,1,-2b6c7 2f968,2f968,1,-27c80 2f969,2f969,1,-27c86",
  "2f96a,2f96a,1,-27c6a 2f96b,2f96b,1,-99e5 2f96c,2f96c,1,-27c09 2f96d,2f96d,1,-2b66c",
  "2f96e,2f96e,1,-27ba7 2f96f,2f96f,1,-27b6d 2f970,2f970,1,-27b2b 2f971,2f971,1,-2b63d",
  "2f972,2f972,1,-974a 2f973,2f973,1,-972c 2f974,2f974,1,-2b61b 2f975,2f975,1,-969c",
  "2f976,2f976,1,-279fc 2f977,2f977,1,-9639 2f978,2f978,1,-279e3 2f979,2f979,1,-2797f",
  "2f97a,2f97a,1,-27975 2f97b,2f97b,1,-94a1 2f97c,2f97c,1,-9459 2f97d,2f97d,1,-2791d",
  "2f97e,2f97e,1,-93d6 2f97f,2f97f,1,-2790f 2f980,2f980,1,-c621 2f981,2f981,1,-2b5ac",
  "2f982,2f982,1,-278d0 2f983,2f983,1,-27880 2f984,2f984,1,-2b579 2f985,2f985,1,-27847",
  "2f986,2f986,1,-29ed1 2f987,2f987,1,-91e0 2f988,2f988,1,-91d3 2f989,2f989,1,-c5f6",
  "2f98a,2f98a,1,-c5ee 2f98b,2f98b,1,-2778a 2f98c,2f98c,1,-27788 2f98d,2f98d,1,-269ef",
  "2f98e,2f98e,1,-2b523 2f98f,2f98f,1,-276fe 2f990,2f990,1,-27705 2f991,2f991,1,-276f4",
  "2f992,2f992,1,-2a6df 2f993,2f993,1,-276e2 2f994,2f994,1,-276e1 2f995,2f995,1,-276d8",
  "2f996,2f996,1,-276b0 2f997,2f997,1,-8e5b 2f998,2f998,1,-276b3 2f999,2f999,1,-2767c",
  "2f99a,2f99a,1,-27637 2f99b,2f99b,1,-275ee 2f99c,2f99c,1,-27679 2f99d,2f99d,1,-275e0",
  "2f99e,2f99e,1,-275b7 2f99f,2f99f,1,-27548 2f9a0,2f9a0,1,-2764d 2f9a1,2f9a1,1,-275d7",
  "2f9a2,2f9a2,1,-275d6 2f9a3,2f9a3,1,-275c7 2f9a4,2f9a4,1,-8d6e 2f9a5,2f9a5,1,-8c3a",
  "2f9a6,2f9a6,1,-8cd1 2f9a7,2f9a7,1,-2b47c 2f9a8,2f9a8,1,-274b7 2f9a9,2f9a9,1,-274b6",
  "2f9aa,2f9aa,1,-27494 2f9ab,2f9ab,1,-85e1 2f9ac,2f9ac,1,-27448 2f9ad,2f9ad,1,-8a81",
  "2f9ae,2f9ae,1,-2b451 2f9af,2f9af,1,-2b44e 2f9b0,2f9b0,1,-89ff 2f9b1,2f9b1,1,-88df",
  "2f9b2,2f9b2,1,-2b447 2f9b3,2f9b3,1,-27363 2f9b4,2f9b4,1,-27358 2f9b5,2f9b5,1,-2734e",
  "2f9b6,2f9b6,1,-2734d 2f9b7,2f9b7,1,-2730e 2f9b8,2f9b8,1,-27330 2f9b9,2f9b9,1,-272ab",
  "2f9ba,2f9ba,1,-272d8 2f9bb,2f9bb,1,-27242 2f9bc,2f9bc,1,-27294 2f9bd,2f9bd,1,-27252",
  "2f9be,2f9be,1,-27238 2f9bf,2f9bf,1,-2b3e8 2f9c0,2f9c0,1,-271df 2f9c1,2f9c1,1,-271c0",
  "2f9c2,2f9c2,1,-2b3c9 2f9c3,2f9c3,1,-27163 2f9c4,2f9c4,1,-27161 2f9c5,2f9c5,1,-835e",
  "2f9c6,2f9c6,1,-270ef 2f9c7,2f9c7,1,-270e9 2f9c8,2f9c8,1,-2b393 2f9c9,2f9c9,1,-270cf",
  "2f9ca,2f9ca,1,-2c50f 2f9cb,2f9cb,1,-811d 2f9cc,2f9cc,1,-8066 2f9cd,2f9cd,1,-2b30f",
  "2f9ce,2f9ce,1,-2b307 2f9cf,2f9cf,1,-26f2f 2f9d0,2f9d0,1,-26ee3 2f9d1,2f9d1,1,-26e47",
  "2f9d2,2f9d2,1,-26d7d 2f9d3,2f9d3,1,-7d2b 2f9d4,2f9d4,1,-26d29 2f9d5,2f9d5,1,-26d14",
  "2f9d6,2f9d6,1,-26cbb 2f9d7,2f9d7,1,-26c60 2f9d8,2f9d8,1,-7aa9 2f9d9,2f9d9,1,-f1d5",
  "2f9da,2f9da,1,-26c0f 2f9db,2f9db,1,-26c1f 2f9dc,2f9dc,1,-26bec 2f9dd,2f9dd,1,-f0ff",
  "2f9de,2f9de,1,-26b0a 2f9df,2f9df,1,-26aa7 2f9e0,2f9e0,1,-740e 2f9e1,2f9e1,1,-73f4",
  "2f9e2,2f9e2,1,-2694e 2f9e3,2f9e3,1,-268f2 2f9e4,2f9e4,1,-268d3 2f9e5,2f9e5,1,-72b7",
  "2f9e6,2f9e6,1,-268cb 2f9e7,2f9e7,1,-267af 2f9e8,2f9e9,1,-26711 2f9ea,2f9ea,1,-2676e",
  "2f9eb,2f9eb,1,-265f2 2f9ec,2f9ec,1,-265d7 2f9ed,2f9ed,1,-6df3 2f9ee,2f9ee,1,-26463",
  "2f9ef,2f9ef,1,-2b05a 2f9f0,2f9f0,1,-26439 2f9f1,2f9f1,1,-6c7a 2f9f2,2f9f2,1,-2b00c",
  "2f9f3,2f9f3,1,-26330 2f9f4,2f9f4,1,-29c42 2f9f5,2f9f5,1,-262d2 2f9f6,2f9f6,1,-68b1",
  "2f9f7,2f9f7,1,-67dd 2f9f8,2f9f8,1,-2af8a 2f9f9,2f9f9,1,-2af83 2f9fa,2f9fa,1,-2621a",
  "2f9fb,2f9fb,1,-65f1 2f9fc,2f9fc,1,-2af4a 2f9fd,2f9fd,1,-6567 2f9fe,2f9fe,1,-261f3",
  "2f9ff,2f9ff,1,-261f4 2fa00,2fa00,1,-261d7 2fa01,2fa01,1,-644b 2fa02,2fa02,1,-26120",
  "2fa03,2fa03,1,-2aed0 2fa04,2fa04,1,-260db 2fa05,2fa05,1,-2605e 2fa06,2fa06,1,-26044",
  "2fa07,2fa07,1,-26009 2fa08,2fa08,1,-2ae3a 2fa09,2fa09,1,-5ed9 2fa0a,2fa0a,1,-25ef8",
  "2fa0b,2fa0b,1,-25dcb 2fa0c,2fa0c,1,-25d0f 2fa0d,2fa0d,1,-2ad3f 2fa0e,2fa0e,1,-2ad21",
  "2fa0f,2fa0f,1,-25ca8 2fa10,2fa10,1,-5942 2fa11,2fa11,1,-2ad19 2fa12,2fa12,1,-590d",
  "2fa13,2fa13,1,-5805 2fa14,2fa14,1,-5783 2fa15,2fa15,1,-25b5a 2fa16,2fa16,1,-2acc0",
  "2fa17,2fa17,1,-25b1e 2fa18,2fa18,1,-25b1a 2fa19,2fa19,1,-25b14 2fa1a,2fa1a,1,-25b0b",
  "2fa1b,2fa1b,1,-25b05 2fa1c,2fa1c,1,-25ae1 2fa1d,2fa1d,1,-541d"]

/-- Characters mapped to several characters: records `code,part,part...`, hexadecimal. -/
def mappedManyText : List String := [
  "a8,20,308 af,20,304 b4,20,301 b8,20,327 bc,31,2044,34 bd,31,2044,32 be,33,2044,34 130,69,307",
  "132,69,6a 133,69,6a 13f,6c,b7 140,6c,b7 149,2bc,6e 1c4,64,17e 1c5,64,17e 1c6,64,17e 1c7,6c,6a",
  "1c8,6c,6a 1c9,6c,6a 1ca,6e,6a 1cb,6e,6a 1cc,6e,6a 1f1,64,7a 1f2,64,7a 1f3,64,7a 2d8,20,306",
  "2d9,20,307 2da,20,30a 2db,20,328 2dc,20,303 2dd,20,30b 344,308,301 37a,20,3b9 384,20,301",
  "385,20,308,301 587,565,582 675,627,674 676,648,674 677,6c7,674 678,64a,674 958,915,93c",
  "959,916,93c 95a,917,93c 95b,91c,93c 95c,921,93c 95d,922,93c 95e,92b,93c 95f,92f,93c 9dc,9a1,9bc",
  "9dd,9a2,9bc 9df,9af,9bc a33,a32,a3c a36,a38,a3c a59,a16,a3c a5a,a17,a3c a5b,a1c,a3c a5e,a2b,a3c",
  "b5c,b21,b3c b5d,b22,b3c e33,e4d,e32 eb3,ecd,eb2 edc,eab,e99 edd,eab,ea1 f43,f42,fb7 f4d,f4c,fb7",
  "f52,f51,fb7 f57,f56,fb7 f5c,f5b,fb7 f69,f40,fb5 f73,f71,f72 f75,f71,f74 f76,fb2,f80",
  "f77,fb2,f71,f80 f78,fb3,f80 f79,fb3,f71,f80 f81,f71,f80 f93,f92,fb7 f9d,f9c,fb7 fa2,fa1,fb7",
  "fa7,fa6,fb7 fac,fab,fb7 fb9,f90,fb5 1e9a,61,2be 1f80,1f00,3b9 1f81,1f01,3b9 1f82,1f02,3b9",
  "1f83,1f03,3b9 1f84,1f04,3b9 1f85,1f05,3b9 1f86,1f06,3b9 1f87,1f07,3b9 1f88,1f00,3b9",
  "1f89,1f01,3b9 1f8a,1f02,3b9 1f8b,1f03,3b9 1f8c,1f04,3b9 1f8d,1f05,3b9 1f8e,1f06,3b9",
  "1f8f,1f07,3b9 1f90,1f20,3b9 1f91,1f21,3b9 1f92,1f22,3b9 1f93,1f23,3b9 1f94,1f24,3b9",
  "1f95,1f25,3b9 1f96,1f26,3b9 1f97,1f27,3b9 1f98,1f20,3b9 1f99,1f21,3b9 1f9a,1f22,3b9",
  "1f9b,1f23,3b9 1f9c,1f24,3b9 1f9d,1f25,3b9 1f9e,1f26,3b9 1f9f,1f27,3b9 1fa0,1f60,3b9",
  "1fa1,1f61,3b9 1fa2,1f62,3b9 1fa3,1f63,3b9 1fa4,1f64,3b9 1fa5,1f65,3b9 1fa6,1f66,3b9",
  "1fa7,1f67,3b9 1fa8,1f60,3b9 1fa9,1f61,3b9 1faa,1f62,3b9 1fab,1f63,3b9 1fac,1f64,3b9",
  "1fad,1f65,3b9 1fae,1f66,3b9 1faf,1f67,3b9 1fb2,1f70,3b9 1fb3,3b1,3b9 1fb4,3ac,3b9 1fb7,1fb6,3b9",
  "1fbc,3b1,3b9 1fbd,20,313 1fbf,20,313 1fc0,20,342 1fc1,20,308,342 1fc2,1f74,3b9 1fc3,3b7,3b9",
  "1fc4,3ae,3b9 1fc7,1fc6,3b9 1fcc,3b7,3b9 1fcd,20,313,300 1fce,20,313,301 1fcf,20,313,342",
  "1fdd,20,314,300 1fde,20,314,301 1fdf,20,314,342 1fed,20,308,300 1fee,20,308,301 1ff2,1f7c,3b9",
  "1ff3,3c9,3b9 1ff4,3ce,3b9 1ff7,1ff6,3b9 1ffc,3c9,3b9 1ffd,20,301 1ffe,20,314 2017,20,333",
  "2033,2032,2032 2034,2032,2032,2032 2036,2035,2035 2037,2035,2035,2035 203c,21,21 203e,20,305",
  "2047,3f,3f 2048,3f,21 2049,21,3f 2057,2032,2032,2032,2032 20a8,72,73 2100,61,2f,63 2101,61,2f,73",
  "2103,b0,63 2105,63,2f,6f 2106,63,2f,75 2109,b0,66 2116,6e,6f 2120,73,6d 2121,74,65,6c 2122,74,6d",
  "213b,66,61,78 2150,31,2044,37 2151,31,2044,39 2152,31,2044,31,30 2153,31,2044,33 2154,32,2044,33",
  "2155,31,2044,35 2156,32,2044,35 2157,33,2044,35 2158,34,2044,35 2159,31,2044,36 215a,35,2044,36",
  "215b,31,2044,38 215c,33,2044,38 215d,35,2044,38 215e,37,2044,38 215f,31,2044 2161,69,69",
  "2162,69,69,69 2163,69,76 2165,76,69 2166,76,69,69 2167,76,69,69,69 2168,69,78 216a,78,69",
  "216b,78,69,69 2171,69,69 2172,69,69,69 2173,69,76 2175,76,69 2176,76,69,69 2177,76,69,69,69",
  "2178,69,78 217a,78,69 217b,78,69,69 2189,30,2044,33 222c,222b,222b 222d,222b,222b,222b",
  "222f,222e,222e 2230,222e,222e,222e 2469,31,30 246a,31,31 246b,31,32 246c,31,33 246d,31,34",
  "246e,31,35 246f,31,36 2470,31,37 2471,31,38 2472,31,39 2473,32,30 2474,28,31,29 2475,28,32,29",
  "2476,28,33,29 2477,28,34,29 2478,28,35,29 2479,28,36,29 247a,28,37,29 247b,28,38,29",
  "247c,28,39,29 247d,28,31,30,29 247e,28,31,31,29 247f,28,31,32,29 2480,28,31,33,29",
  "2481,28,31,34,29 2482,28,31,35,29 2483,28,31,36,29 2484,28,31,37,29 2485,28,31,38,29",
  "2486,28,31,39,29 2487,28,32,30,29 249c,28,61,29 249d,28,62,29 249e,28,63,29 249f,28,64,29",
  "24a0,28,65,29 24a1,28,66,29 24a2,28,67,29 24a3,28,68,29 24a4,28,69,29 24a5,28,6a,29",
  "24a6,28,6b,29 24a7,28,6c,29 24a8,28,6d,29 24a9,28,6e,29 24aa,28,6f,29 24ab,28,70,29",
  "24ac,28,71,29 24ad,28,72,29 24ae,28,73,29 24af,28,74,29 24b0,28,75,29 24b1,28,76,29",
  "24b2,28,77,29 24b3,28,78,29 24b4,28,79,29 24b5,28,7a,29 2a0c,222b,222b,222b,222b 2a74,3a,3a,3d",
  "2a75,3d,3d 2a76,3d,3d,3d 2adc,2add,338 309b,20,3099 309c,20,309a 309f,3088,308a 30ff,30b3,30c8",
  "3200,28,1100,29 3201,28,1102,29 3202,28,1103,29 3203,28,1105,29 3204,28,1106,29 3205,28,1107,29",
  "3206,28,1109,29 3207,28,110b,29 3208,28,110c,29 3209,28,110e,29 320a,28,110f,29 320b,28,1110,29",
  "320c,28,1111,29 320d,28,1112,29 320e,28,ac00,29 320f,28,b098,29 3210,28,b2e4,29 3211,28,b77c,29",
  "3212,28,b9c8,29 3213,28,bc14,29 3214,28,c0ac,29 3215,28,c544,29 3216,28,c790,29 3217,28,cc28,29",
  "3218,28,ce74,29 3219,28,d0c0,29 321a,28,d30c,29 321b,28,d558,29 321c,28,c8fc,29",
  "321d,28,c624,c804,29 321e,28,c624,d6c4,29 3220,28,4e00,29 3221,28,4e8c,29 3222,28,4e09,29",
  "3223,28,56db,29 3224,28,4e94,29 3225,28,516d,29 3226,28,4e03,29 3227,28,516b,29 3228,28,4e5d,29",
  "3229,28,5341,29 322a,28,6708,29 322b,28,706b,29 322c,28,6c34,29 322d,28,6728,29 322e,28,91d1,29",
  "322f,28,571f,29 3230,28,65e5,29 3231,28,682a,29 3232,28,6709,29 3233,28,793e,29 3234,28,540d,29",
  "3235,28,7279,29 3236,28,8ca1,29 3237,28,795d,29 3238,28,52b4,29 3239,28,4ee3,29 323a,28,547c,29",
  "323b,28,5b66,29 323c,28,76e3,29 323d,28,4f01,29 323e,28,8cc7,29 323f,28,5354,29 3240,28,796d,29",
  "3241,28,4f11,29 3242,28,81ea,29 3243,28,81f3,29 3250,70,74,65 3251,32,31 3252,32,32 3253,32,33",
  "3254,32,34 3255,32,35 3256,32,36 3257,32,37 3258,32,38 3259,32,39 325a,33,30 325b,33,31",
  "325c,33,32 325d,33,33 325e,33,34 325f,33,35 327c,cc38,ace0 327d,c8fc,c758 32b1,33,36 32b2,33,37",
  "32b3,33,38 32b4,33,39 32b5,34,30 32b6,34,31 32b7,34,32 32b8,34,33 32b9,34,34 32ba,34,35",
  "32bb,34,36 32bc,34,37 32bd,34,38 32be,34,39 32bf,35,30 32c0,31,6708 32c1,32,6708 32c2,33,6708",
  "32c3,34,6708 32c4,35,6708 32c5,36,6708 32c6,37,6708 32c7,38,6708 32c8,39,6708 32c9,31,30,6708",
  "32ca,31,31,6708 32cb,31,32,6708 32cc,68,67 32cd,65,72,67 32ce,65,76 32cf,6c,74,64 32ff,4ee4,548c",
  "3300,30a2,30d1,30fc,30c8 3301,30a2,30eb,30d5,30a1 3302,30a2,30f3,30da,30a2 3303,30a2,30fc,30eb",
  "3304,30a4,30cb,30f3,30b0 3305,30a4,30f3,30c1 3306,30a6,30a9,30f3 3307,30a8,30b9,30af,30fc,30c9",
  "3308,30a8,30fc,30ab,30fc 3309,30aa,30f3,30b9 330a,30aa,30fc,30e0 330b,30ab,30a4,30ea",
  "330c,30ab,30e9,30c3,30c8 330d,30ab,30ed,30ea,30fc 330e,30ac,30ed,30f3 330f,30ac,30f3,30de",
  "3310,30ae,30ac 3311,30ae,30cb,30fc 3312,30ad,30e5,30ea,30fc 3313,30ae,30eb,30c0,30fc",
  "3314,30ad,30ed 3315,30ad,30ed,30b0,30e9,30e0 3316,30ad,30ed,30e1,30fc,30c8,30eb",
  "3317,30ad,30ed,30ef,30c3,30c8 3318,30b0,30e9,30e0 3319,30b0,30e9,30e0,30c8,30f3",
  "331a,30af,30eb,30bc,30a4,30ed 331b,30af,30ed,30fc,30cd 331c,30b1,30fc,30b9 331d,30b3,30eb,30ca",
  "331e,30b3,30fc,30dd 331f,30b5,30a4,30af,30eb 3320,30b5,30f3,30c1,30fc,30e0",
  "3321,30b7,30ea,30f3,30b0 3322,30bb,30f3,30c1 3323,30bb,30f3,30c8 3324,30c0,30fc,30b9",
  "3325,30c7,30b7 3326,30c9,30eb 3327,30c8,30f3 3328,30ca,30ce 3329,30ce,30c3,30c8",
  "332a,30cf,30a4,30c4 332b,30d1,30fc,30bb,30f3,30c8 332c,30d1,30fc,30c4 332d,30d0,30fc,30ec,30eb",
  "332e,30d4,30a2,30b9,30c8,30eb 332f,30d4,30af,30eb 3330,30d4,30b3 3331,30d3,30eb",
  "3332,30d5,30a1,30e9,30c3,30c9 3333,30d5,30a3,30fc,30c8 3334,30d6,30c3,30b7,30a7,30eb",
  "3335,30d5,30e9,30f3 3336,30d8,30af,30bf,30fc,30eb 3337,30da,30bd 3338,30da,30cb,30d2",
  "3339,30d8,30eb,30c4 333a,30da,30f3,30b9 333b,30da,30fc,30b8 333c,30d9,30fc,30bf",
  "333d,30dd,30a4,30f3,30c8 333e,30dc,30eb,30c8 333f,30db,30f3 3340,30dd,30f3,30c9",
  "3341,30db,30fc,30eb 3342,30db,30fc,30f3 3343,30de,30a4,30af,30ed 3344,30de,30a4,30eb",
  "3345,30de,30c3,30cf 3346,30de,30eb,30af 3347,30de,30f3,30b7,30e7,30f3 3348,30df,30af,30ed,30f3",
  "3349,30df,30ea 334a,30df,30ea,30d0,30fc,30eb 334b,30e1,30ac 334c,30e1,30ac,30c8,30f3",
  "334d,30e1,30fc,30c8,30eb 334e,30e4,30fc,30c9 334f,30e4,30fc,30eb 3350,30e6,30a2,30f3",
  "3351,30ea,30c3,30c8,30eb 3352,30ea,30e9 3353,30eb,30d4,30fc 3354,30eb,30fc,30d6,30eb",
  "3355,30ec,30e0 3356,30ec,30f3,30c8,30b2,30f3 3357,30ef,30c3,30c8 3358,30,70b9 3359,31,70b9",
  "335a,32,70b9 335b,33,70b9 335c,34,70b9 335d,35,70b9 335e,36,70b9 335f,37,70b9 3360,38,70b9",
  "3361,39,70b9 3362,31,30,70b9 3363,31,31,70b9 3364,31,32,70b9 3365,31,33,70b9 3366,31,34,70b9",
  "3367,31,35,70b9 3368,31,36,70b9 3369,31,37,70b9 336a,31,38,70b9 336b,31,39,70b9 336c,32,30,70b9",
  "336d,32,31,70b9 336e,32,32,70b9 336f,32,33,70b9 3370,32,34,70b9 3371,68,70,61 3372,64,61",
  "3373,61,75 3374,62,61,72 3375,6f,76 3376,70,63 3377,64,6d 3378,64,6d,32 3379,64,6d,33 337a,69,75",
  "337b,5e73,6210 337c,662d,548c 337d,5927,6b63 337e,660e,6cbb 337f,682a,5f0f,4f1a,793e 3380,70,61",
  "3381,6e,61 3382,3bc,61 3383,6d,61 3384,6b,61 3385,6b,62 3386,6d,62 3387,67,62 3388,63,61,6c",
  "3389,6b,63,61,6c 338a,70,66 338b,6e,66 338c,3bc,66 338d,3bc,67 338e,6d,67 338f,6b,67 3390,68,7a",
  "3391,6b,68,7a 3392,6d,68,7a 3393,67,68,7a 3394,74,68,7a 3395,3bc,6c 3396,6d,6c 3397,64,6c",
  "3398,6b,6c 3399,66,6d 339a,6e,6d 339b,3bc,6d 339c,6d,6d 339d,63,6d 339e,6b,6d 339f,6d,6d,32",
  "33a0,63,6d,32 33a1,6d,32 33a2,6b,6d,32 33a3,6d,6d,33 33a4,63,6d,33 33a5,6d,33 33a6,6b,6d,33",
  "33a7,6d,2215,73 33a8,6d,2215,73,32 33a9,70,61 33aa,6b,70,61 33ab,6d,70,61 33ac,67,70,61",
  "33ad,72,61,64 33ae,72,61,64,2215,73 33af,72,61,64,2215,73,32 33b0,70,73 33b1,6e,73 33b2,3bc,73",
  "33b3,6d,73 33b4,70,76 33b5,6e,76 33b6,3bc,76 33b7,6d,76 33b8,6b,76 33b9,6d,76 33ba,70,77",
  "33bb,6e,77 33bc,3bc,77 33bd,6d,77 33be,6b,77 33bf,6d,77 33c0,6b,3c9 33c1,6d,3c9 33c3,62,71",
  "33c4,63,63 33c5,63,64 33c6,63,2215,6b,67 33c8,64,62 33c9,67,79 33ca,68,61 33cb,68,70 33cc,69,6e",
  "33cd,6b,6b 33ce,6b,6d 33cf,6b,74 33d0,6c,6d 33d1,6c,6e 33d2,6c,6f,67 33d3,6c,78 33d4,6d,62",
  "33d5,6d,69,6c 33d6,6d,6f,6c 33d7,70,68 33d9,70,70,6d 33da,70,72 33db,73,72 33dc,73,76 33dd,77,62",
  "33de,76,2215,6d 33df,61,2215,6d 33e0,31,65e5 33e1,32,65e5 33e2,33,65e5 33e3,34,65e5 33e4,35,65e5",
  "33e5,36,65e5 33e6,37,65e5 33e7,38,65e5 33e8,39,65e5 33e9,31,30,65e5 33ea,31,31,65e5",
  "33eb,31,32,65e5 33ec,31,33,65e5 33ed,31,34,65e5 33ee,31,35,65e5 33ef,31,36,65e5 33f0,31,37,65e5",
  "33f1,31,38,65e5 33f2,31,39,65e5 33f3,32,30,65e5 33f4,32,31,65e5 33f5,32,32,65e5 33f6,32,33,65e5",
  "33f7,32,34,65e5 33f8,32,35,65e5 33f9,32,36,65e5 33fa,32,37,65e5 33fb,32,38,65e5 33fc,32,39,65e5",
  "33fd,33,30,65e5 33fe,33,31,65e5 33ff,67,61,6c fb00,66,66 fb01,66,69 fb02,66,6c fb03,66,66,69",
  "fb04,66,66,6c fb05,73,74 fb06,73,74 fb13,574,576 fb14,574,565 fb15,574,56b fb16,57e,576",
  "fb17,574,56d fb1d,5d9,5b4 fb1f,5f2,5b7 fb2a,5e9,5c1 fb2b,5e9,5c2 fb2c,5e9,5bc,5c1",
  "fb2d,5e9,5bc,5c2 fb2e,5d0,5b7 fb2f,5d0,5b8 fb30,5d0,5bc fb31,5d1,5bc fb32,5d2,5bc fb33,5d3,5bc",
  "fb34,5d4,5bc fb35,5d5,5bc fb36,5d6,5bc fb38,5d8,5bc fb39,5d9,5bc fb3a,5da,5bc fb3b,5db,5bc",
  "fb3c,5dc,5bc fb3e,5de,5bc fb40,5e0,5bc fb41,5e1,5bc fb43,5e3,5bc fb44,5e4,5bc fb46,5e6,5bc",
  "fb47,5e7,5bc fb48,5e8,5bc fb49,5e9,5bc fb4a,5ea,5bc fb4b,5d5,5b9 fb4c,5d1,5bf fb4d,5db,5bf",
  "fb4e,5e4,5bf fb4f,5d0,5dc fbdd,6c7,674 fbea,626,627 fbeb,626,627 fbec,626,6d5 fbed,626,6d5",
  "fbee,626,648 fbef,626,648 fbf0,626,6c7 fbf1,626,6c7 fbf2,626,6c6 fbf3,626,6c6 fbf4,626,6c8",
  "fbf5,626,6c8 fbf6,626,6d0 fbf7,626,6d0 fbf8,626,6d0 fbf9,626,649 fbfa,626,649 fbfb,626,649",
  "fc00,626,62c fc01,626,62d fc02,626,645 fc03,626,649 fc04,626,64a fc05,628,62c fc06,628,62d",
  "fc07,628,62e fc08,628,645 fc09,628,649 fc0a,628,64a fc0b,62a,62c fc0c,62a,62d fc0d,62a,62e",
  "fc0e,62a,645 fc0f,62a,649 fc10,62a,64a fc11,62b,62c fc12,62b,645 fc13,62b,649 fc14,62b,64a",
  "fc15,62c,62d fc16,62c,645 fc17,62d,62c fc18,62d,645 fc19,62e,62c fc1a,62e,62d fc1b,62e,645",
  "fc1c,633,62c fc1d,633,62d fc1e,633,62e fc1f,633,645 fc20,635,62d fc21,635,645 fc22,636,62c",
  "fc23,636,62d fc24,636,62e fc25,636,645 fc26,637,62d fc27,637,645 fc28,638,645 fc29,639,62c",
  "fc2a,639,645 fc2b,63a,62c fc2c,63a,645 fc2d,641,62c fc2e,641,62d fc2f,641,62e fc30,641,645",
  "fc31,641,649 fc32,641,64a fc33,642,62d fc34,642,645 fc35,642,649 fc36,642,64a fc37,643,627",
  "fc38,643,62c fc39,643,62d fc3a,643,62e fc3b,643,644 fc3c,643,645 fc3d,643,649 fc3e,643,64a",
  "fc3f,644,62c fc40,644,62d fc41,644,62e fc42,644,645 fc43,644,649 fc44,644,64a fc45,645,62c",
  "fc46,645,62d fc47,645,62e fc48,645,645 fc49,645,649 fc4a,645,64a fc4b,646,62c fc4c,646,62d",
  "fc4d,646,62e fc4e,646,645 fc4f,646,649 fc50,646,64a fc51,647,62c fc52,647,645 fc53,647,649",
  "fc54,647,64a fc55,64a,62c fc56,64a,62d fc57,64a,62e fc58,64a,645 fc59,64a,649 fc5a,64a,64a",
  "fc5b,630,670 fc5c,631,670 fc5d,649,670 fc5e,20,64c,651 fc5f,20,64d,651 fc60,20,64e,651",
  "fc61,20,64f,651 fc62,20,650,651 fc63,20,651,670 fc64,626,631 fc65,626,632 fc66,626,645",
  "fc67,626,646 fc68,626,649 fc69,626,64a fc6a,628,631 fc6b,628,632 fc6c,628,645 fc6d,628,646",
  "fc6e,628,649 fc6f,628,64a fc70,62a,631 fc71,62a,632 fc72,62a,645 fc73,62a,646 fc74,62a,649",
  "fc75,62a,64a fc76,62b,631 fc77,62b,632 fc78,62b,645 fc79,62b,646 fc7a,62b,649 fc7b,62b,64a",
  "fc7c,641,649 fc7d,641,64a fc7e,642,649 fc7f,642,64a fc80,643,627 fc81,643,644 fc82,643,645",
  "fc83,643,649 fc84,643,64a fc85,644,645 fc86,644,649 fc87,644,64a fc88,645,627 fc89,645,645",
  "fc8a,646,631 fc8b,646,632 fc8c,646,645 fc8d,646,646 fc8e,646,649 fc8f,646,64a fc90,649,670",
  "fc91,64a,631 fc92,64a,632 fc93,64a,645 fc94,64a,646 fc95,64a,649 fc96,64a,64a fc97,626,62c",
  "fc98,626,62d fc99,626,62e fc9a,626,645 fc9b,626,647 fc9c,628,62c fc9d,628,62d fc9e,628,62e",
  "fc9f,628,645 fca0,628,647 fca1,62a,62c fca2,62a,62d fca3,62a,62e fca4,62a,645 fca5,62a,647",
  "fca6,62b,645 fca7,62c,62d fca8,62c,645 fca9,62d,62c fcaa,62d,645 fcab,62e,62c fcac,62e,645",
  "fcad,633,62c fcae,633,62d fcaf,633,62e fcb0,633,645 fcb1,635,62d fcb2,635,62e fcb3,635,645",
  "fcb4,636,62c fcb5,636,62d fcb6,636,62e fcb7,636,645 fcb8,637,62d fcb9,638,645 fcba,639,62c",
  "fcbb,639,645 fcbc,63a,62c fcbd,63a,645 fcbe,641,62c fcbf,641,62d fcc0,641,62e fcc1,641,645",
  "fcc2,642,62d fcc3,642,645 fcc4,643,62c fcc5,643,62d fcc6,643,62e fcc7,643,644 fcc8,643,645",
  "fcc9,644,62c fcca,644,62d fccb,644,62e fccc,644,645 fccd,644,647 fcce,645,62c fccf,645,62d",
  "fcd0,645,62e fcd1,645,645 fcd2,646,62c fcd3,646,62d fcd4,646,62e fcd5,646,645 fcd6,646,647",
  "fcd7,647,62c fcd8,647,645 fcd9,647,670 fcda,64a,62c fcdb,64a,62d fcdc,64a,62e fcdd,64a,645",
  "fcde,64a,647 fcdf,626,645 fce0,626,647 fce1,628,645 fce2,628,647 fce3,62a,645 fce4,62a,647",
  "fce5,62b,645 fce6,62b,647 fce7,633,645 fce8,633,647 fce9,634,645 fcea,634,647 fceb,643,644",
  "fcec,643,645 fced,644,645 fcee,646,645 fcef,646,647 fcf0,64a,645 fcf1,64a,647 fcf2,640,64e,651",
  "fcf3,640,64f,651 fcf4,640,650,651 fcf5,637,649 fcf6,637,64a fcf7,639,649 fcf8,639,64a",
  "fcf9,63a,649 fcfa,63a,64a fcfb,633,649 fcfc,633,64a fcfd,634,649 fcfe,634,64a fcff,62d,649",
  "fd00,62d,64a fd01,62c,649 fd02,62c,64a fd03,62e,649 fd04,62e,64a fd05,635,649 fd06,635,64a",
  "fd07,636,649 fd08,636,64a fd09,634,62c fd0a,634,62d fd0b,634,62e fd0c,634,645 fd0d,634,631",
  "fd0e,633,631 fd0f,635,631 fd10,636,631 fd11,637,649 fd12,637,64a fd13,639,649 fd14,639,64a",
  "fd15,63a,649 fd16,63a,64a fd17,633,649 fd18,633,64a fd19,634,649 fd1a,634,64a fd1b,62d,649",
  "fd1c,62d,64a fd1d,62c,649 fd1e,62c,64a fd1f,62e,649 fd20,62e,64a fd21,635,649 fd22,635,64a",
  "fd23,636,649 fd24,636,64a fd25,634,62c fd26,634,62d fd27,634,62e fd28,634,645 fd29,634,631",
  "fd2a,633,631 fd2b,635,631 fd2c,636,631 fd2d,634,62c fd2e,634,62d fd2f,634,62e fd30,634,645",
  "fd31,633,647 fd32,634,647 fd33,637,645 fd34,633,62c fd35,633,62d fd36,633,62e fd37,634,62c",
  "fd38,634,62d fd39,634,62e fd3a,637,645 fd3b,638,645 fd3c,627,64b fd3d,627,64b fd50,62a,62c,645",
  "fd51,62a,62d,62c fd52,62a,62d,62c fd53,62a,62d,645 fd54,62a,62e,645 fd55,62a,645,62c",
  "fd56,62a,645,62d fd57,62a,645,62e fd58,62c,645,62d fd59,62c,645,62d fd5a,62d,645,64a",
  "fd5b,62d,645,649 fd5c,633,62d,62c fd5d,633,62c,62d fd5e,633,62c,649 fd5f,633,645,62d",
  "fd60,633,645,62d fd61,633,645,62c fd62,633,645,645 fd63,633,645,645 fd64,635,62d,62d",
  "fd65,635,62d,62d fd66,635,645,645 fd67,634,62d,645 fd68,634,62d,645 fd69,634,62c,64a",
  "fd6a,634,645,62e fd6b,634,645,62e fd6c,634,645,645 fd6d,634,645,645 fd6e,636,62d,649",
  "fd6f,636,62e,645 fd70,636,62e,645 fd71,637,645,62d fd72,637,645,62d fd73,637,645,645",
  "fd74,637,645,64a fd75,639,62c,645 fd76,639,645,645 fd77,639,645,645 fd78,639,645,649",
  "fd79,63a,645,645 fd7a,63a,645,64a fd7b,63a,645,649 fd7c,641,62e,645 fd7d,641,62e,645",
  "fd7e,642,645,62d fd7f,642,645,645 fd80,644,62d,645 fd81,644,62d,64a fd82,644,62d,649",
  "fd83,644,62c,62c fd84,644,62c,62c fd85,644,62e,645 fd86,644,62e,645 fd87,644,645,62d",
  "fd88,644,645,62d fd89,645,62d,62c fd8a,645,62d,645 fd8b,645,62d,64a fd8c,645,62c,62d",
  "fd8d,645,62c,645 fd8e,645,62e,62c fd8f,645,62e,645 fd92,645,62c,62e fd93,647,645,62c",
  "fd94,647,645,645 fd95,646,62d,645 fd96,646,62d,649 fd97,646,62c,645 fd98,646,62c,645",
  "fd99,646,62c,649 fd9a,646,645,64a fd9b,646,645,649 fd9c,64a,645,645 fd9d,64a,645,645",
  "fd9e,628,62e,64a fd9f,62a,62c,64a fda0,62a,62c,649 fda1,62a,62e,64a fda2,62a,62e,649",
  "fda3,62a,645,64a fda4,62a,645,649 fda5,62c,645,64a fda6,62c,62d,649 fda7,62c,645,649",
  "fda8,633,62e,649 fda9,635,62d,64a fdaa,634,62d,64a fdab,636,62d,64a fdac,644,62c,64a",
  "fdad,644,645,64a fdae,64a,62d,64a fdaf,64a,62c,64a fdb0,64a,645,64a fdb1,645,645,64a",
  "fdb2,642,645,64a fdb3,646,62d,64a fdb4,642,645,62d fdb5,644,62d,645 fdb6,639,645,64a",
  "fdb7,643,645,64a fdb8,646,62c,62d fdb9,645,62e,64a fdba,644,62c,645 fdbb,643,645,645",
  "fdbc,644,62c,645 fdbd,646,62c,62d fdbe,62c,62d,64a fdbf,62d,62c,64a fdc0,645,62c,64a",
  "fdc1,641,645,64a fdc2,628,62d,64a fdc3,643,645,645 fdc4,639,62c,645 fdc5,635,645,645",
  "fdc6,633,62e,64a fdc7,646,62c,64a fdf0,635,644,6d2 fdf1,642,644,6d2 fdf2,627,644,644,647",
  "fdf3,627,643,628,631 fdf4,645,62d,645,62f fdf5,635,644,639,645 fdf6,631,633,648,644",
  "fdf7,639,644,64a,647 fdf8,648,633,644,645 fdf9,635,644,649",
  "fdfa,635,644,649,20,627,644,644,647,20,639,644,64a,647,20,648,633,644,645",
  "fdfb,62c,644,20,62c,644,627,644,647 fdfc,631,6cc,627,644 fe49,20,305 fe4a,20,305 fe4b,20,305",
  "fe4c,20,305 fe70,20,64b fe71,640,64b fe72,20,64c fe74,20,64d fe76,20,64e fe77,640,64e",
  "fe78,20,64f fe79,640,64f fe7a,20,650 fe7b,640,650 fe7c,20,651 fe7d,640,651 fe7e,20,652",
  "fe7f,640,652 fef5,644,622 fef6,644,622 fef7,644,623 fef8,644,623 fef9,644,625 fefa,644,625",
  "fefb,644,627 fefc,644,627 ffe3,20,304 1d15e,1d157,1d165 1d15f,1d158,1d165",
  "1d160,1d158,1d165,1d16e 1d161,1d158,1d165,1d16f 1d162,1d158,1d165,1d170 1d163,1d158,1d165,1d171",
  "1d164,1d158,1d165,1d172 1d1bb,1d1b9,1d165 1d1bc,1d1ba,1d165 1d1bd,1d1b9,1d165,1d16e",
  "1d1be,1d1ba,1d165,1d16e 1d1bf,1d1b9,1d165,1d16f 1d1c0,1d1ba,1d165,1d16f 1f101,30,2c 1f102,31,2c",
  "1f103,32,2c 1f104,33,2c 1f105,34,2c 1f106,35,2c 1f107,36,2c 1f108,37,2c 1f109,38,2c 1f10a,39,2c",
  "1f110,28,61,29 1f111,28,62,29 1f112,28,63,29 1f113,28,64,29 1f114,28,65,29 1f115,28,66,29",
  "1f116,28,67,29 1f117,28,68,29 1f118,28,69,29 1f119,28,6a,29 1f11a,28,6b,29 1f11b,28,6c,29",
  "1f11c,28,6d,29 1f11d,28,6e,29 1f11e,28,6f,29 1f11f,28,70,29 1f120,28,71,29 1f121,28,72,29",
  "1f122,28,73,29 1f123,28,74,29 1f124,28,75,29 1f125,28,76,29 1f126,28,77,29 1f127,28,78,29",
  "1f128,28,79,29 1f129,28,7a,29 1f12a,3014,73,3015 1f12d,63,64 1f12e,77,7a 1f14a,68,76 1f14b,6d,76",
  "1f14c,73,64 1f14d,73,73 1f14e,70,70,76 1f14f,77,63 1f16a,6d,63 1f16b,6d,64 1f16c,6d,72",
  "1f190,64,6a 1f200,307b,304b 1f201,30b3,30b3 1f240,3014,672c,3015 1f241,3014,4e09,3015",
  "1f242,3014,4e8c,3015 1f243,3014,5b89,3015 1f244,3014,70b9,3015 1f245,3014,6253,3015",
  "1f246,3014,76d7,3015 1f247,3014,52dd,3015 1f248,3014,6557,3015"]

/-- Characters that may not appear in a domain: records `first,last`, hexadecimal. -/
def disallowedText : List String := [
  "80,9f 378,379 380,383 38b,38b 38d,38d 3a2,3a2 530,530 557,558 58b,58c 590,590 5c8,5cf 5eb,5ee",
  "5f5,605 61c,61c 6dd,6dd 70e,70f 74b,74c 7b2,7bf 7fb,7fc 82e,82f 83f,83f 85c,85d 85f,85f 86b,86f",
  "890,896 8e2,8e2 984,984 98d,98e 991,992 9a9,9a9 9b1,9b1 9b3,9b5 9ba,9bb 9c5,9c6 9c9,9ca 9cf,9d6",
  "9d8,9db 9de,9de 9e4,9e5 9ff,a00 a04,a04 a0b,a0e a11,a12 a29,a29 a31,a31 a34,a34 a37,a37 a3a,a3b",
  "a3d,a3d a43,a46 a49,a4a a4e,a50 a52,a58 a5d,a5d a5f,a65 a77,a80 a84,a84 a8e,a8e a92,a92 aa9,aa9",
  "ab1,ab1 ab4,ab4 aba,abb ac6,ac6 aca,aca ace,acf ad1,adf ae4,ae5 af2,af8 b00,b00 b04,b04 b0d,b0e",
  "b11,b12 b29,b29 b31,b31 b34,b34 b3a,b3b b45,b46 b49,b4a b4e,b54 b58,b5b b5e,b5e b64,b65 b78,b81",
  "b84,b84 b8b,b8d b91,b91 b96,b98 b9b,b9b b9d,b9d ba0,ba2 ba5,ba7 bab,bad bba,bbd bc3,bc5 bc9,bc9",
  "bce,bcf bd1,bd6 bd8,be5 bfb,bff c0d,c0d c11,c11 c29,c29 c3a,c3b c45,c45 c49,c49 c4e,c54 c57,c57",
  "c5b,c5b c5e,c5f c64,c65 c70,c76 c8d,c8d c91,c91 ca9,ca9 cb4,cb4 cba,cbb cc5,cc5 cc9,cc9 cce,cd4",
  "cd7,cdb cdf,cdf ce4,ce5 cf0,cf0 cf4,cff d0d,d0d d11,d11 d45,d45 d49,d49 d50,d53 d64,d65 d80,d80",
  "d84,d84 d97,d99 db2,db2 dbc,dbc dbe,dbf dc7,dc9 dcb,dce dd5,dd5 dd7,dd7 de0,de5 df0,df1 df5,e00",
  "e3b,e3e e5c,e80 e83,e83 e85,e85 e8b,e8b ea4,ea4 ea6,ea6 ebe,ebf ec5,ec5 ec7,ec7 ecf,ecf eda,edb",
  "ee0,eff f48,f48 f6d,f70 f98,f98 fbd,fbd fcd,fcd fdb,fff 10c6,10c6 10c8,10cc 10ce,10cf 1249,1249",
  "124e,124f 1257,1257 1259,1259 125e,125f 1289,1289 128e,128f 12b1,12b1 12b6,12b7 12bf,12bf",
  "12c1,12c1 12c6,12c7 12d7,12d7 1311,1311 1316,1317 135b,135c 137d,137f 139a,139f 13f6,13f7",
  "13fe,13ff 1680,1680 169d,169f 16f9,16ff 1716,171e 1737,173f 1754,175f 176d,176d 1771,1771",
  "1774,177f 17de,17df 17ea,17ef 17fa,17ff 181a,181f 1879,187f 18ab,18af 18f6,18ff 191f,191f",
  "192c,192f 193c,193f 1941,1943 196e,196f 1975,197f 19ac,19af 19ca,19cf 19db,19dd 1a1c,1a1d",
  "1a5f,1a5f 1a7d,1a7e 1a8a,1a8f 1a9a,1a9f 1aae,1aaf 1ade,1adf 1aec,1aff 1b4d,1b4d 1bf4,1bfb",
  "1c38,1c3a 1c4a,1c4c 1c8b,1c8f 1cbb,1cbc 1cc8,1ccf 1cfb,1cff 1f16,1f17 1f1e,1f1f 1f46,1f47",
  "1f4e,1f4f 1f58,1f58 1f5a,1f5a 1f5c,1f5c 1f5e,1f5e 1f7e,1f7f 1fb5,1fb5 1fc5,1fc5 1fd4,1fd5",
  "1fdc,1fdc 1ff0,1ff1 1ff5,1ff5 1fff,1fff 200e,200f 2024,2026 2028,202e 2065,2069 2072,2073",
  "208f,208f 209d,209f 20c2,20cf 20f1,20ff 218c,218f 242a,243f 244b,245f 2488,249b 2b74,2b75",
  "2cf4,2cf8 2d26,2d26 2d28,2d2c 2d2e,2d2f 2d68,2d6e 2d71,2d7e 2d97,2d9f 2da7,2da7 2daf,2daf",
  "2db7,2db7 2dbf,2dbf 2dc7,2dc7 2dcf,2dcf 2dd7,2dd7 2ddf,2ddf 2e5e,2e7f 2e9a,2e9a 2ef4,2eff",
  "2fd6,2fff 3040,3040 3097,3098 3100,3104 3130,3130 318f,318f 31e6,31ef 321f,321f 33c2,33c2",
  "33c7,33c7 33d8,33d8 a48d,a48f a4c7,a4cf a62c,a63f a6f8,a6ff a7dd,a7f0 a82d,a82f a83a,a83f",
  "a878,a87f a8c6,a8cd a8da,a8df a954,a95e a97d,a97f a9ce,a9ce a9da,a9dd a9ff,a9ff aa37,aa3f",
  "aa4e,aa4f aa5a,aa5b aac3,aada aaf7,ab00 ab07,ab08 ab0f,ab10 ab17,ab1f ab27,ab27 ab2f,ab2f",
  "ab6c,ab6f abee,abef abfa,abff d7a4,d7af d7c7,d7ca d7fc,f8ff fa6e,fa6f fada,faff fb07,fb12",
  "fb18,fb1c fb37,fb37 fb3d,fb3d fb3f,fb3f fb42,fb42 fb45,fb45 fdd0,fdef fe12,fe12 fe19,fe1f",
  "fe30,fe30 fe52,fe53 fe67,fe67 fe6c,fe6f fe75,fe75 fefd,fefe ff00,ff00 ffbf,ffc1 ffc8,ffc9",
  "ffd0,ffd1 ffd8,ffd9 ffdd,ffdf ffe7,ffe7 ffef,ffff 1000c,1000c 10027,10027 1003b,1003b",
  "1003e,1003e 1004e,1004f 1005e,1007f 100fb,100ff 10103,10106 10134,10136 1018f,1018f 1019d,1019f",
  "101a1,101cf 101fe,1027f 1029d,1029f 102d1,102df 102fc,102ff 10324,1032c 1034b,1034f 1037b,1037f",
  "1039e,1039e 103c4,103c7 103d6,103ff 1049e,1049f 104aa,104af 104d4,104d7 104fc,104ff 10528,1052f",
  "10564,1056e 1057b,1057b 1058b,1058b 10593,10593 10596,10596 105a2,105a2 105b2,105b2 105ba,105ba",
  "105bd,105bf 105f4,105ff 10737,1073f 10756,1075f 10768,1077f 10786,10786 107b1,107b1 107bb,107ff",
  "10806,10807 10809,10809 10836,10836 10839,1083b 1083d,1083e 10856,10856 1089f,108a6 108b0,108df",
  "108f3,108f3 108f6,108fa 1091c,1091e 1093a,1093e 1095a,1097f 109b8,109bb 109d0,109d1 10a04,10a04",
  "10a07,10a0b 10a14,10a14 10a18,10a18 10a36,10a37 10a3b,10a3e 10a49,10a4f 10a59,10a5f 10aa0,10abf",
  "10ae7,10aea 10af7,10aff 10b36,10b38 10b56,10b57 10b73,10b77 10b92,10b98 10b9d,10ba8 10bb0,10bff",
  "10c49,10c7f 10cb3,10cbf 10cf3,10cf9 10d28,10d2f 10d3a,10d3f 10d66,10d68 10d86,10d8d 10d90,10e5f",
  "10e7f,10e7f 10eaa,10eaa 10eae,10eaf 10eb2,10ec1 10ec8,10ecf 10ed9,10ef9 10f28,10f2f 10f5a,10f6f",
  "10f8a,10faf 10fcc,10fdf 10ff7,10fff 1104e,11051 11076,1107e 110bd,110bd 110c3,110cf 110e9,110ef",
  "110fa,110ff 11135,11135 11148,1114f 11177,1117f 111e0,111e0 111f5,111ff 11212,11212 11242,1127f",
  "11287,11287 11289,11289 1128e,1128e 1129e,1129e 112aa,112af 112eb,112ef 112fa,112ff 11304,11304",
  "1130d,1130e 11311,11312 11329,11329 11331,11331 11334,11334 1133a,1133a 11345,11346 11349,1134a",
  "1134e,1134f 11351,11356 11358,1135c 11364,11365 1136d,1136f 11375,1137f 1138a,1138a 1138c,1138d",
  "1138f,1138f 113b6,113b6 113c1,113c1 113c3,113c4 113c6,113c6 113cb,113cb 113d6,113d6 113d9,113e0",
  "113e3,113ff 1145c,1145c 11462,1147f 114c8,114cf 114da,1157f 115b6,115b7 115de,115ff 11645,1164f",
  "1165a,1165f 1166d,1167f 116ba,116bf 116ca,116cf 116e4,116ff 1171b,1171c 1172c,1172f 11747,117ff",
  "1183c,1189f 118f3,118fe 11907,11908 1190a,1190b 11914,11914 11917,11917 11936,11936 11939,1193a",
  "11947,1194f 1195a,1199f 119a8,119a9 119d8,119d9 119e5,119ff 11a48,11a4f 11aa3,11aaf 11af9,11aff",
  "11b0a,11b5f 11b68,11bbf 11be2,11bef 11bfa,11bff 11c09,11c09 11c37,11c37 11c46,11c4f 11c6d,11c6f",
  "11c90,11c91 11ca8,11ca8 11cb7,11cff 11d07,11d07 11d0a,11d0a 11d37,11d39 11d3b,11d3b 11d3e,11d3e",
  "11d48,11d4f 11d5a,11d5f 11d66,11d66 11d69,11d69 11d8f,11d8f 11d92,11d92 11d99,11d9f 11daa,11daf",
  "11ddc,11ddf 11dea,11edf 11ef9,11eff 11f11,11f11 11f3b,11f3d 11f5b,11faf 11fb1,11fbf 11ff2,11ffe",
  "1239a,123ff 1246f,1246f 12475,1247f 12544,12f8f 12ff3,12fff 13430,1343f 13456,1345f 143fb,143ff",
  "14647,160ff 1613a,167ff 16a39,16a3f 16a5f,16a5f 16a6a,16a6d 16abf,16abf 16aca,16acf 16aee,16aef",
  "16af6,16aff 16b46,16b4f 16b5a,16b5a 16b62,16b62 16b78,16b7c 16b90,16d3f 16d7a,16e3f 16e9b,16e9f",
  "16eb9,16eba 16ed4,16eff 16f4b,16f4e 16f88,16f8e 16fa0,16fdf 16fe5,16fef 16ff7,16fff 18cd6,18cfe",
  "18d1f,18d7f 18df3,1afef 1aff4,1aff4 1affc,1affc 1afff,1afff 1b123,1b131 1b133,1b14f 1b153,1b154",
  "1b156,1b163 1b168,1b16f 1b2fc,1bbff 1bc6b,1bc6f 1bc7d,1bc7f 1bc89,1bc8f 1bc9a,1bc9b 1bca4,1cbff",
  "1ccfd,1ccff 1ceb4,1ceb9 1ced1,1cedf 1cef1,1ceff 1cf2e,1cf2f 1cf47,1cf4f 1cfc4,1cfff 1d0f6,1d0ff",
  "1d127,1d128 1d1eb,1d1ff 1d246,1d2bf 1d2d4,1d2df 1d2f4,1d2ff 1d357,1d35f 1d379,1d3ff 1d455,1d455",
  "1d49d,1d49d 1d4a0,1d4a1 1d4a3,1d4a4 1d4a7,1d4a8 1d4ad,1d4ad 1d4ba,1d4ba 1d4bc,1d4bc 1d4c4,1d4c4",
  "1d506,1d506 1d50b,1d50c 1d515,1d515 1d51d,1d51d 1d53a,1d53a 1d53f,1d53f 1d545,1d545 1d547,1d549",
  "1d551,1d551 1d6a6,1d6a7 1d7cc,1d7cd 1da8c,1da9a 1daa0,1daa0 1dab0,1deff 1df1f,1df24 1df2b,1dfff",
  "1e007,1e007 1e019,1e01a 1e022,1e022 1e025,1e025 1e02b,1e02f 1e06e,1e08e 1e090,1e0ff 1e12d,1e12f",
  "1e13e,1e13f 1e14a,1e14d 1e150,1e28f 1e2af,1e2bf 1e2fa,1e2fe 1e300,1e4cf 1e4fa,1e5cf 1e5fb,1e5fe",
  "1e600,1e6bf 1e6df,1e6df 1e6f6,1e6fd 1e700,1e7df 1e7e7,1e7e7 1e7ec,1e7ec 1e7ef,1e7ef 1e7ff,1e7ff",
  "1e8c5,1e8c6 1e8d7,1e8ff 1e94c,1e94f 1e95a,1e95d 1e960,1ec70 1ecb5,1ed00 1ed3e,1edff 1ee04,1ee04",
  "1ee20,1ee20 1ee23,1ee23 1ee25,1ee26 1ee28,1ee28 1ee33,1ee33 1ee38,1ee38 1ee3a,1ee3a 1ee3c,1ee41",
  "1ee43,1ee46 1ee48,1ee48 1ee4a,1ee4a 1ee4c,1ee4c 1ee50,1ee50 1ee53,1ee53 1ee55,1ee56 1ee58,1ee58",
  "1ee5a,1ee5a 1ee5c,1ee5c 1ee5e,1ee5e 1ee60,1ee60 1ee63,1ee63 1ee65,1ee66 1ee6b,1ee6b 1ee73,1ee73",
  "1ee78,1ee78 1ee7d,1ee7d 1ee7f,1ee7f 1ee8a,1ee8a 1ee9c,1eea0 1eea4,1eea4 1eeaa,1eeaa 1eebc,1eeef",
  "1eef2,1efff 1f02c,1f02f 1f094,1f09f 1f0af,1f0b0 1f0c0,1f0c0 1f0d0,1f0d0 1f0f6,1f100 1f1ae,1f1e5",
  "1f203,1f20f 1f23c,1f23f 1f249,1f24f 1f252,1f25f 1f266,1f2ff 1f6d9,1f6db 1f6ed,1f6ef 1f6fd,1f6ff",
  "1f7da,1f7df 1f7ec,1f7ef 1f7f1,1f7ff 1f80c,1f80f 1f848,1f84f 1f85a,1f85f 1f888,1f88f 1f8ae,1f8af",
  "1f8bc,1f8bf 1f8c2,1f8cf 1f8d9,1f8ff 1fa58,1fa5f 1fa6e,1fa6f 1fa7d,1fa7f 1fa8b,1fa8d 1fac7,1fac7",
  "1fac9,1facc 1fadd,1fade 1faeb,1faee 1faf9,1faff 1fb93,1fb93 1fbfb,1ffff 2a6e0,2a6ff 2b81e,2b81f",
  "2ceae,2ceaf 2ebe1,2ebef 2ee5e,2f7ff 2fa1e,2ffff 3134b,3134f 3347a,e00ff e01f0,10ffff"]

/-- Characters dropped from a domain: records `first,last`, hexadecimal. -/
def ignoredText : List String := [
  "ad,ad 34f,34f 115f,1160 17b4,17b5 180b,180f 200b,200b 2060,2064 206a,206f 3164,3164 fe00,fe0f",
  "feff,feff ffa0,ffa0 1bca0,1bca3 1d173,1d17a e0100,e01ef"]

/-- Characters kept as they are but checked by context: records `first,last`, hexadecimal. -/
def deviationText : List String := [
  "df,df 3c2,3c2 200c,200d"]

end FleetTelemetry.Http
