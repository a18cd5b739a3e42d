import ModelCatalog.Text.Compatibility.Row

/-! Punctuation, letterlike signs, arrows, operators and enclosed characters. -/
namespace ModelCatalog.Text.Compatibility

def symbols20 : List Row := [
  (0x2000, [0x20]), (0x2001, [0x20]), (0x2002, [0x20]), (0x2003, [0x20]), (0x2004, [0x20]),
  (0x2005, [0x20]), (0x2006, [0x20]), (0x2007, [0x20]), (0x2008, [0x20]), (0x2009, [0x20]),
  (0x200A, [0x20]), (0x2011, [0x2010]), (0x2017, [0x20, 0x333]), (0x2024, [0x2E]),
  (0x2025, [0x2E, 0x2E]), (0x2026, [0x2E, 0x2E, 0x2E]), (0x202F, [0x20]),
  (0x2033, [0x2032, 0x2032]), (0x2034, [0x2032, 0x2032, 0x2032]), (0x2036, [0x2035, 0x2035]),
  (0x2037, [0x2035, 0x2035, 0x2035]), (0x203C, [0x21, 0x21]), (0x203E, [0x20, 0x305]),
  (0x2047, [0x3F, 0x3F]), (0x2048, [0x3F, 0x21]), (0x2049, [0x21, 0x3F]),
  (0x2057, [0x2032, 0x2032, 0x2032, 0x2032]), (0x205F, [0x20]), (0x2070, [0x30]),
  (0x2071, [0x69]), (0x2074, [0x34]), (0x2075, [0x35]), (0x2076, [0x36]), (0x2077, [0x37]),
  (0x2078, [0x38]), (0x2079, [0x39]), (0x207A, [0x2B]), (0x207B, [0x2212]), (0x207C, [0x3D]),
  (0x207D, [0x28]), (0x207E, [0x29]), (0x207F, [0x6E]), (0x2080, [0x30]), (0x2081, [0x31]),
  (0x2082, [0x32]), (0x2083, [0x33]), (0x2084, [0x34]), (0x2085, [0x35]), (0x2086, [0x36]),
  (0x2087, [0x37]), (0x2088, [0x38]), (0x2089, [0x39]), (0x208A, [0x2B]), (0x208B, [0x2212]),
  (0x208C, [0x3D]), (0x208D, [0x28]), (0x208E, [0x29]), (0x2090, [0x61]), (0x2091, [0x65]),
  (0x2092, [0x6F]), (0x2093, [0x78]), (0x2094, [0x259]), (0x2095, [0x68]), (0x2096, [0x6B]),
  (0x2097, [0x6C]), (0x2098, [0x6D]), (0x2099, [0x6E]), (0x209A, [0x70]), (0x209B, [0x73]),
  (0x209C, [0x74]), (0x20A8, [0x52, 0x73])]

def symbols21 : List Row := [
  (0x2100, [0x61, 0x2F, 0x63]), (0x2101, [0x61, 0x2F, 0x73]), (0x2102, [0x43]),
  (0x2103, [0xB0, 0x43]), (0x2105, [0x63, 0x2F, 0x6F]), (0x2106, [0x63, 0x2F, 0x75]),
  (0x2107, [0x190]), (0x2109, [0xB0, 0x46]), (0x210A, [0x67]), (0x210B, [0x48]),
  (0x210C, [0x48]), (0x210D, [0x48]), (0x210E, [0x68]), (0x210F, [0x127]), (0x2110, [0x49]),
  (0x2111, [0x49]), (0x2112, [0x4C]), (0x2113, [0x6C]), (0x2115, [0x4E]), (0x2116, [0x4E, 0x6F]),
  (0x2119, [0x50]), (0x211A, [0x51]), (0x211B, [0x52]), (0x211C, [0x52]), (0x211D, [0x52]),
  (0x2120, [0x53, 0x4D]), (0x2121, [0x54, 0x45, 0x4C]), (0x2122, [0x54, 0x4D]), (0x2124, [0x5A]),
  (0x2126, [0x3A9]), (0x2128, [0x5A]), (0x212A, [0x4B]), (0x212B, [0x41, 0x30A]),
  (0x212C, [0x42]), (0x212D, [0x43]), (0x212F, [0x65]), (0x2130, [0x45]), (0x2131, [0x46]),
  (0x2133, [0x4D]), (0x2134, [0x6F]), (0x2135, [0x5D0]), (0x2136, [0x5D1]), (0x2137, [0x5D2]),
  (0x2138, [0x5D3]), (0x2139, [0x69]), (0x213B, [0x46, 0x41, 0x58]), (0x213C, [0x3C0]),
  (0x213D, [0x3B3]), (0x213E, [0x393]), (0x213F, [0x3A0]), (0x2140, [0x2211]), (0x2145, [0x44]),
  (0x2146, [0x64]), (0x2147, [0x65]), (0x2148, [0x69]), (0x2149, [0x6A]),
  (0x2150, [0x31, 0x2044, 0x37]), (0x2151, [0x31, 0x2044, 0x39]),
  (0x2152, [0x31, 0x2044, 0x31, 0x30]), (0x2153, [0x31, 0x2044, 0x33]),
  (0x2154, [0x32, 0x2044, 0x33]), (0x2155, [0x31, 0x2044, 0x35]), (0x2156, [0x32, 0x2044, 0x35]),
  (0x2157, [0x33, 0x2044, 0x35]), (0x2158, [0x34, 0x2044, 0x35]), (0x2159, [0x31, 0x2044, 0x36]),
  (0x215A, [0x35, 0x2044, 0x36]), (0x215B, [0x31, 0x2044, 0x38]), (0x215C, [0x33, 0x2044, 0x38]),
  (0x215D, [0x35, 0x2044, 0x38]), (0x215E, [0x37, 0x2044, 0x38]), (0x215F, [0x31, 0x2044]),
  (0x2160, [0x49]), (0x2161, [0x49, 0x49]), (0x2162, [0x49, 0x49, 0x49]), (0x2163, [0x49, 0x56]),
  (0x2164, [0x56]), (0x2165, [0x56, 0x49]), (0x2166, [0x56, 0x49, 0x49]),
  (0x2167, [0x56, 0x49, 0x49, 0x49]), (0x2168, [0x49, 0x58]), (0x2169, [0x58]),
  (0x216A, [0x58, 0x49]), (0x216B, [0x58, 0x49, 0x49]), (0x216C, [0x4C]), (0x216D, [0x43]),
  (0x216E, [0x44]), (0x216F, [0x4D]), (0x2170, [0x69]), (0x2171, [0x69, 0x69]),
  (0x2172, [0x69, 0x69, 0x69]), (0x2173, [0x69, 0x76]), (0x2174, [0x76]), (0x2175, [0x76, 0x69]),
  (0x2176, [0x76, 0x69, 0x69]), (0x2177, [0x76, 0x69, 0x69, 0x69]), (0x2178, [0x69, 0x78]),
  (0x2179, [0x78]), (0x217A, [0x78, 0x69]), (0x217B, [0x78, 0x69, 0x69]), (0x217C, [0x6C]),
  (0x217D, [0x63]), (0x217E, [0x64]), (0x217F, [0x6D]), (0x2189, [0x30, 0x2044, 0x33]),
  (0x219A, [0x2190, 0x338]), (0x219B, [0x2192, 0x338]), (0x21AE, [0x2194, 0x338]),
  (0x21CD, [0x21D0, 0x338]), (0x21CE, [0x21D4, 0x338]), (0x21CF, [0x21D2, 0x338])]

def symbols22 : List Row := [
  (0x2204, [0x2203, 0x338]), (0x2209, [0x2208, 0x338]), (0x220C, [0x220B, 0x338]),
  (0x2224, [0x2223, 0x338]), (0x2226, [0x2225, 0x338]), (0x222C, [0x222B, 0x222B]),
  (0x222D, [0x222B, 0x222B, 0x222B]), (0x222F, [0x222E, 0x222E]),
  (0x2230, [0x222E, 0x222E, 0x222E]), (0x2241, [0x223C, 0x338]), (0x2244, [0x2243, 0x338]),
  (0x2247, [0x2245, 0x338]), (0x2249, [0x2248, 0x338]), (0x2260, [0x3D, 0x338]),
  (0x2262, [0x2261, 0x338]), (0x226D, [0x224D, 0x338]), (0x226E, [0x3C, 0x338]),
  (0x226F, [0x3E, 0x338]), (0x2270, [0x2264, 0x338]), (0x2271, [0x2265, 0x338]),
  (0x2274, [0x2272, 0x338]), (0x2275, [0x2273, 0x338]), (0x2278, [0x2276, 0x338]),
  (0x2279, [0x2277, 0x338]), (0x2280, [0x227A, 0x338]), (0x2281, [0x227B, 0x338]),
  (0x2284, [0x2282, 0x338]), (0x2285, [0x2283, 0x338]), (0x2288, [0x2286, 0x338]),
  (0x2289, [0x2287, 0x338]), (0x22AC, [0x22A2, 0x338]), (0x22AD, [0x22A8, 0x338]),
  (0x22AE, [0x22A9, 0x338]), (0x22AF, [0x22AB, 0x338]), (0x22E0, [0x227C, 0x338]),
  (0x22E1, [0x227D, 0x338]), (0x22E2, [0x2291, 0x338]), (0x22E3, [0x2292, 0x338]),
  (0x22EA, [0x22B2, 0x338]), (0x22EB, [0x22B3, 0x338]), (0x22EC, [0x22B4, 0x338]),
  (0x22ED, [0x22B5, 0x338])]

def symbols23 : List Row := [
  (0x2329, [0x3008]), (0x232A, [0x3009])]

def symbols24 : List Row := [
  (0x2460, [0x31]), (0x2461, [0x32]), (0x2462, [0x33]), (0x2463, [0x34]), (0x2464, [0x35]),
  (0x2465, [0x36]), (0x2466, [0x37]), (0x2467, [0x38]), (0x2468, [0x39]), (0x2469, [0x31, 0x30]),
  (0x246A, [0x31, 0x31]), (0x246B, [0x31, 0x32]), (0x246C, [0x31, 0x33]), (0x246D, [0x31, 0x34]),
  (0x246E, [0x31, 0x35]), (0x246F, [0x31, 0x36]), (0x2470, [0x31, 0x37]), (0x2471, [0x31, 0x38]),
  (0x2472, [0x31, 0x39]), (0x2473, [0x32, 0x30]), (0x2474, [0x28, 0x31, 0x29]),
  (0x2475, [0x28, 0x32, 0x29]), (0x2476, [0x28, 0x33, 0x29]), (0x2477, [0x28, 0x34, 0x29]),
  (0x2478, [0x28, 0x35, 0x29]), (0x2479, [0x28, 0x36, 0x29]), (0x247A, [0x28, 0x37, 0x29]),
  (0x247B, [0x28, 0x38, 0x29]), (0x247C, [0x28, 0x39, 0x29]), (0x247D, [0x28, 0x31, 0x30, 0x29]),
  (0x247E, [0x28, 0x31, 0x31, 0x29]), (0x247F, [0x28, 0x31, 0x32, 0x29]),
  (0x2480, [0x28, 0x31, 0x33, 0x29]), (0x2481, [0x28, 0x31, 0x34, 0x29]),
  (0x2482, [0x28, 0x31, 0x35, 0x29]), (0x2483, [0x28, 0x31, 0x36, 0x29]),
  (0x2484, [0x28, 0x31, 0x37, 0x29]), (0x2485, [0x28, 0x31, 0x38, 0x29]),
  (0x2486, [0x28, 0x31, 0x39, 0x29]), (0x2487, [0x28, 0x32, 0x30, 0x29]), (0x2488, [0x31, 0x2E]),
  (0x2489, [0x32, 0x2E]), (0x248A, [0x33, 0x2E]), (0x248B, [0x34, 0x2E]), (0x248C, [0x35, 0x2E]),
  (0x248D, [0x36, 0x2E]), (0x248E, [0x37, 0x2E]), (0x248F, [0x38, 0x2E]), (0x2490, [0x39, 0x2E]),
  (0x2491, [0x31, 0x30, 0x2E]), (0x2492, [0x31, 0x31, 0x2E]), (0x2493, [0x31, 0x32, 0x2E]),
  (0x2494, [0x31, 0x33, 0x2E]), (0x2495, [0x31, 0x34, 0x2E]), (0x2496, [0x31, 0x35, 0x2E]),
  (0x2497, [0x31, 0x36, 0x2E]), (0x2498, [0x31, 0x37, 0x2E]), (0x2499, [0x31, 0x38, 0x2E]),
  (0x249A, [0x31, 0x39, 0x2E]), (0x249B, [0x32, 0x30, 0x2E]), (0x249C, [0x28, 0x61, 0x29]),
  (0x249D, [0x28, 0x62, 0x29]), (0x249E, [0x28, 0x63, 0x29]), (0x249F, [0x28, 0x64, 0x29]),
  (0x24A0, [0x28, 0x65, 0x29]), (0x24A1, [0x28, 0x66, 0x29]), (0x24A2, [0x28, 0x67, 0x29]),
  (0x24A3, [0x28, 0x68, 0x29]), (0x24A4, [0x28, 0x69, 0x29]), (0x24A5, [0x28, 0x6A, 0x29]),
  (0x24A6, [0x28, 0x6B, 0x29]), (0x24A7, [0x28, 0x6C, 0x29]), (0x24A8, [0x28, 0x6D, 0x29]),
  (0x24A9, [0x28, 0x6E, 0x29]), (0x24AA, [0x28, 0x6F, 0x29]), (0x24AB, [0x28, 0x70, 0x29]),
  (0x24AC, [0x28, 0x71, 0x29]), (0x24AD, [0x28, 0x72, 0x29]), (0x24AE, [0x28, 0x73, 0x29]),
  (0x24AF, [0x28, 0x74, 0x29]), (0x24B0, [0x28, 0x75, 0x29]), (0x24B1, [0x28, 0x76, 0x29]),
  (0x24B2, [0x28, 0x77, 0x29]), (0x24B3, [0x28, 0x78, 0x29]), (0x24B4, [0x28, 0x79, 0x29]),
  (0x24B5, [0x28, 0x7A, 0x29]), (0x24B6, [0x41]), (0x24B7, [0x42]), (0x24B8, [0x43]),
  (0x24B9, [0x44]), (0x24BA, [0x45]), (0x24BB, [0x46]), (0x24BC, [0x47]), (0x24BD, [0x48]),
  (0x24BE, [0x49]), (0x24BF, [0x4A]), (0x24C0, [0x4B]), (0x24C1, [0x4C]), (0x24C2, [0x4D]),
  (0x24C3, [0x4E]), (0x24C4, [0x4F]), (0x24C5, [0x50]), (0x24C6, [0x51]), (0x24C7, [0x52]),
  (0x24C8, [0x53]), (0x24C9, [0x54]), (0x24CA, [0x55]), (0x24CB, [0x56]), (0x24CC, [0x57]),
  (0x24CD, [0x58]), (0x24CE, [0x59]), (0x24CF, [0x5A]), (0x24D0, [0x61]), (0x24D1, [0x62]),
  (0x24D2, [0x63]), (0x24D3, [0x64]), (0x24D4, [0x65]), (0x24D5, [0x66]), (0x24D6, [0x67]),
  (0x24D7, [0x68]), (0x24D8, [0x69]), (0x24D9, [0x6A]), (0x24DA, [0x6B]), (0x24DB, [0x6C]),
  (0x24DC, [0x6D]), (0x24DD, [0x6E]), (0x24DE, [0x6F]), (0x24DF, [0x70]), (0x24E0, [0x71]),
  (0x24E1, [0x72]), (0x24E2, [0x73]), (0x24E3, [0x74]), (0x24E4, [0x75]), (0x24E5, [0x76]),
  (0x24E6, [0x77]), (0x24E7, [0x78]), (0x24E8, [0x79]), (0x24E9, [0x7A]), (0x24EA, [0x30])]

def symbols2A : List Row := [
  (0x2A0C, [0x222B, 0x222B, 0x222B, 0x222B]), (0x2A74, [0x3A, 0x3A, 0x3D]),
  (0x2A75, [0x3D, 0x3D]), (0x2A76, [0x3D, 0x3D, 0x3D]), (0x2ADC, [0x2ADD, 0x338])]

def symbols2C : List Row := [
  (0x2C7C, [0x6A]), (0x2C7D, [0x56])]

def symbols2D : List Row := [
  (0x2D6F, [0x2D61])]

def symbols2E : List Row := [
  (0x2E9F, [0x6BCD]), (0x2EF3, [0x9F9F])]

def symbols : List Page := [
  (0x20, symbols20), (0x21, symbols21), (0x22, symbols22), (0x23, symbols23), (0x24, symbols24),
  (0x2A, symbols2A), (0x2C, symbols2C), (0x2D, symbols2D), (0x2E, symbols2E)]

end ModelCatalog.Text.Compatibility
