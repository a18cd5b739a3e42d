import ModelCatalog.Text.Compatibility.Row

/-! Letters of the remaining alphabets and syllabaries. -/
namespace ModelCatalog.Text.Compatibility

def scripts05 : List Row := [
  (0x587, [0x565, 0x582])]

def scripts06 : List Row := [
  (0x622, [0x627, 0x653]), (0x623, [0x627, 0x654]), (0x624, [0x648, 0x654]),
  (0x625, [0x627, 0x655]), (0x626, [0x64A, 0x654]), (0x675, [0x627, 0x674]),
  (0x676, [0x648, 0x674]), (0x677, [0x6C7, 0x674]), (0x678, [0x64A, 0x674]),
  (0x6C0, [0x6D5, 0x654]), (0x6C2, [0x6C1, 0x654]), (0x6D3, [0x6D2, 0x654])]

def scripts09 : List Row := [
  (0x929, [0x928, 0x93C]), (0x931, [0x930, 0x93C]), (0x934, [0x933, 0x93C]),
  (0x958, [0x915, 0x93C]), (0x959, [0x916, 0x93C]), (0x95A, [0x917, 0x93C]),
  (0x95B, [0x91C, 0x93C]), (0x95C, [0x921, 0x93C]), (0x95D, [0x922, 0x93C]),
  (0x95E, [0x92B, 0x93C]), (0x95F, [0x92F, 0x93C]), (0x9CB, [0x9C7, 0x9BE]),
  (0x9CC, [0x9C7, 0x9D7]), (0x9DC, [0x9A1, 0x9BC]), (0x9DD, [0x9A2, 0x9BC]),
  (0x9DF, [0x9AF, 0x9BC])]

def scripts0A : List Row := [
  (0xA33, [0xA32, 0xA3C]), (0xA36, [0xA38, 0xA3C]), (0xA59, [0xA16, 0xA3C]),
  (0xA5A, [0xA17, 0xA3C]), (0xA5B, [0xA1C, 0xA3C]), (0xA5E, [0xA2B, 0xA3C])]

def scripts0B : List Row := [
  (0xB48, [0xB47, 0xB56]), (0xB4B, [0xB47, 0xB3E]), (0xB4C, [0xB47, 0xB57]),
  (0xB5C, [0xB21, 0xB3C]), (0xB5D, [0xB22, 0xB3C]), (0xB94, [0xB92, 0xBD7]),
  (0xBCA, [0xBC6, 0xBBE]), (0xBCB, [0xBC7, 0xBBE]), (0xBCC, [0xBC6, 0xBD7])]

def scripts0C : List Row := [
  (0xC48, [0xC46, 0xC56]), (0xCC0, [0xCBF, 0xCD5]), (0xCC7, [0xCC6, 0xCD5]),
  (0xCC8, [0xCC6, 0xCD6]), (0xCCA, [0xCC6, 0xCC2]), (0xCCB, [0xCC6, 0xCC2, 0xCD5])]

def scripts0D : List Row := [
  (0xD4A, [0xD46, 0xD3E]), (0xD4B, [0xD47, 0xD3E]), (0xD4C, [0xD46, 0xD57]),
  (0xDDA, [0xDD9, 0xDCA]), (0xDDC, [0xDD9, 0xDCF]), (0xDDD, [0xDD9, 0xDCF, 0xDCA]),
  (0xDDE, [0xDD9, 0xDDF])]

def scripts0E : List Row := [
  (0xE33, [0xE4D, 0xE32]), (0xEB3, [0xECD, 0xEB2]), (0xEDC, [0xEAB, 0xE99]),
  (0xEDD, [0xEAB, 0xEA1])]

def scripts0F : List Row := [
  (0xF0C, [0xF0B]), (0xF43, [0xF42, 0xFB7]), (0xF4D, [0xF4C, 0xFB7]), (0xF52, [0xF51, 0xFB7]),
  (0xF57, [0xF56, 0xFB7]), (0xF5C, [0xF5B, 0xFB7]), (0xF69, [0xF40, 0xFB5]),
  (0xF73, [0xF71, 0xF72]), (0xF75, [0xF71, 0xF74]), (0xF76, [0xFB2, 0xF80]),
  (0xF77, [0xFB2, 0xF71, 0xF80]), (0xF78, [0xFB3, 0xF80]), (0xF79, [0xFB3, 0xF71, 0xF80]),
  (0xF81, [0xF71, 0xF80]), (0xF93, [0xF92, 0xFB7]), (0xF9D, [0xF9C, 0xFB7]),
  (0xFA2, [0xFA1, 0xFB7]), (0xFA7, [0xFA6, 0xFB7]), (0xFAC, [0xFAB, 0xFB7]),
  (0xFB9, [0xF90, 0xFB5])]

def scripts10 : List Row := [
  (0x1026, [0x1025, 0x102E]), (0x10FC, [0x10DC])]

def scripts1B : List Row := [
  (0x1B06, [0x1B05, 0x1B35]), (0x1B08, [0x1B07, 0x1B35]), (0x1B0A, [0x1B09, 0x1B35]),
  (0x1B0C, [0x1B0B, 0x1B35]), (0x1B0E, [0x1B0D, 0x1B35]), (0x1B12, [0x1B11, 0x1B35]),
  (0x1B3B, [0x1B3A, 0x1B35]), (0x1B3D, [0x1B3C, 0x1B35]), (0x1B40, [0x1B3E, 0x1B35]),
  (0x1B41, [0x1B3F, 0x1B35]), (0x1B43, [0x1B42, 0x1B35])]

def scripts1D : List Row := [
  (0x1D2C, [0x41]), (0x1D2D, [0xC6]), (0x1D2E, [0x42]), (0x1D30, [0x44]), (0x1D31, [0x45]),
  (0x1D32, [0x18E]), (0x1D33, [0x47]), (0x1D34, [0x48]), (0x1D35, [0x49]), (0x1D36, [0x4A]),
  (0x1D37, [0x4B]), (0x1D38, [0x4C]), (0x1D39, [0x4D]), (0x1D3A, [0x4E]), (0x1D3C, [0x4F]),
  (0x1D3D, [0x222]), (0x1D3E, [0x50]), (0x1D3F, [0x52]), (0x1D40, [0x54]), (0x1D41, [0x55]),
  (0x1D42, [0x57]), (0x1D43, [0x61]), (0x1D44, [0x250]), (0x1D45, [0x251]), (0x1D46, [0x1D02]),
  (0x1D47, [0x62]), (0x1D48, [0x64]), (0x1D49, [0x65]), (0x1D4A, [0x259]), (0x1D4B, [0x25B]),
  (0x1D4C, [0x25C]), (0x1D4D, [0x67]), (0x1D4F, [0x6B]), (0x1D50, [0x6D]), (0x1D51, [0x14B]),
  (0x1D52, [0x6F]), (0x1D53, [0x254]), (0x1D54, [0x1D16]), (0x1D55, [0x1D17]), (0x1D56, [0x70]),
  (0x1D57, [0x74]), (0x1D58, [0x75]), (0x1D59, [0x1D1D]), (0x1D5A, [0x26F]), (0x1D5B, [0x76]),
  (0x1D5C, [0x1D25]), (0x1D5D, [0x3B2]), (0x1D5E, [0x3B3]), (0x1D5F, [0x3B4]), (0x1D60, [0x3C6]),
  (0x1D61, [0x3C7]), (0x1D62, [0x69]), (0x1D63, [0x72]), (0x1D64, [0x75]), (0x1D65, [0x76]),
  (0x1D66, [0x3B2]), (0x1D67, [0x3B3]), (0x1D68, [0x3C1]), (0x1D69, [0x3C6]), (0x1D6A, [0x3C7]),
  (0x1D78, [0x43D]), (0x1D9B, [0x252]), (0x1D9C, [0x63]), (0x1D9D, [0x255]), (0x1D9E, [0xF0]),
  (0x1D9F, [0x25C]), (0x1DA0, [0x66]), (0x1DA1, [0x25F]), (0x1DA2, [0x261]), (0x1DA3, [0x265]),
  (0x1DA4, [0x268]), (0x1DA5, [0x269]), (0x1DA6, [0x26A]), (0x1DA7, [0x1D7B]), (0x1DA8, [0x29D]),
  (0x1DA9, [0x26D]), (0x1DAA, [0x1D85]), (0x1DAB, [0x29F]), (0x1DAC, [0x271]), (0x1DAD, [0x270]),
  (0x1DAE, [0x272]), (0x1DAF, [0x273]), (0x1DB0, [0x274]), (0x1DB1, [0x275]), (0x1DB2, [0x278]),
  (0x1DB3, [0x282]), (0x1DB4, [0x283]), (0x1DB5, [0x1AB]), (0x1DB6, [0x289]), (0x1DB7, [0x28A]),
  (0x1DB8, [0x1D1C]), (0x1DB9, [0x28B]), (0x1DBA, [0x28C]), (0x1DBB, [0x7A]), (0x1DBC, [0x290]),
  (0x1DBD, [0x291]), (0x1DBE, [0x292]), (0x1DBF, [0x3B8])]

def scriptsA6 : List Row := [
  (0xA69C, [0x44A]), (0xA69D, [0x44C])]

def scriptsA7 : List Row := [
  (0xA770, [0xA76F]), (0xA7F1, [0x53]), (0xA7F2, [0x43]), (0xA7F3, [0x46]), (0xA7F4, [0x51]),
  (0xA7F8, [0x126]), (0xA7F9, [0x153])]

def scriptsAB : List Row := [
  (0xAB5C, [0xA727]), (0xAB5D, [0xAB37]), (0xAB5E, [0x26B]), (0xAB5F, [0xAB52]),
  (0xAB69, [0x28D])]

def scripts105 : List Row := [
  (0x105C9, [0x105D2, 0x307]), (0x105E4, [0x105DA, 0x307])]

def scripts107 : List Row := [
  (0x10781, [0x2D0]), (0x10782, [0x2D1]), (0x10783, [0xE6]), (0x10784, [0x299]),
  (0x10785, [0x253]), (0x10787, [0x2A3]), (0x10788, [0xAB66]), (0x10789, [0x2A5]),
  (0x1078A, [0x2A4]), (0x1078B, [0x256]), (0x1078C, [0x257]), (0x1078D, [0x1D91]),
  (0x1078E, [0x258]), (0x1078F, [0x25E]), (0x10790, [0x2A9]), (0x10791, [0x264]),
  (0x10792, [0x262]), (0x10793, [0x260]), (0x10794, [0x29B]), (0x10795, [0x127]),
  (0x10796, [0x29C]), (0x10797, [0x267]), (0x10798, [0x284]), (0x10799, [0x2AA]),
  (0x1079A, [0x2AB]), (0x1079B, [0x26C]), (0x1079C, [0x1DF04]), (0x1079D, [0xA78E]),
  (0x1079E, [0x26E]), (0x1079F, [0x1DF05]), (0x107A0, [0x28E]), (0x107A1, [0x1DF06]),
  (0x107A2, [0xF8]), (0x107A3, [0x276]), (0x107A4, [0x277]), (0x107A5, [0x71]),
  (0x107A6, [0x27A]), (0x107A7, [0x1DF08]), (0x107A8, [0x27D]), (0x107A9, [0x27E]),
  (0x107AA, [0x280]), (0x107AB, [0x2A8]), (0x107AC, [0x2A6]), (0x107AD, [0xAB67]),
  (0x107AE, [0x2A7]), (0x107AF, [0x288]), (0x107B0, [0x2C71]), (0x107B2, [0x28F]),
  (0x107B3, [0x2A1]), (0x107B4, [0x2A2]), (0x107B5, [0x298]), (0x107B6, [0x1C0]),
  (0x107B7, [0x1C1]), (0x107B8, [0x1C2]), (0x107B9, [0x1DF0A]), (0x107BA, [0x1DF1E])]

def scripts110 : List Row := [
  (0x1109A, [0x11099, 0x110BA]), (0x1109C, [0x1109B, 0x110BA]), (0x110AB, [0x110A5, 0x110BA])]

def scripts111 : List Row := [
  (0x1112E, [0x11131, 0x11127]), (0x1112F, [0x11132, 0x11127])]

def scripts113 : List Row := [
  (0x1134B, [0x11347, 0x1133E]), (0x1134C, [0x11347, 0x11357]), (0x11383, [0x11382, 0x113C9]),
  (0x11385, [0x11384, 0x113BB]), (0x1138E, [0x1138B, 0x113C2]), (0x11391, [0x11390, 0x113C9]),
  (0x113C5, [0x113C2, 0x113C2]), (0x113C7, [0x113C2, 0x113B8]), (0x113C8, [0x113C2, 0x113C9])]

def scripts114 : List Row := [
  (0x114BB, [0x114B9, 0x114BA]), (0x114BC, [0x114B9, 0x114B0]), (0x114BE, [0x114B9, 0x114BD])]

def scripts115 : List Row := [
  (0x115BA, [0x115B8, 0x115AF]), (0x115BB, [0x115B9, 0x115AF])]

def scripts119 : List Row := [
  (0x11938, [0x11935, 0x11930])]

def scripts161 : List Row := [
  (0x16121, [0x1611E, 0x1611E]), (0x16122, [0x1611E, 0x16129]), (0x16123, [0x1611E, 0x1611F]),
  (0x16124, [0x16129, 0x1611F]), (0x16125, [0x1611E, 0x16120]),
  (0x16126, [0x1611E, 0x1611E, 0x1611F]), (0x16127, [0x1611E, 0x16129, 0x1611F]),
  (0x16128, [0x1611E, 0x1611E, 0x16120])]

def scripts16D : List Row := [
  (0x16D68, [0x16D67, 0x16D67]), (0x16D69, [0x16D63, 0x16D67]),
  (0x16D6A, [0x16D63, 0x16D67, 0x16D67])]

def scripts : List Page := [
  (0x5, scripts05), (0x6, scripts06), (0x9, scripts09), (0xA, scripts0A), (0xB, scripts0B),
  (0xC, scripts0C), (0xD, scripts0D), (0xE, scripts0E), (0xF, scripts0F), (0x10, scripts10),
  (0x1B, scripts1B), (0x1D, scripts1D), (0xA6, scriptsA6), (0xA7, scriptsA7), (0xAB, scriptsAB),
  (0x105, scripts105), (0x107, scripts107), (0x110, scripts110), (0x111, scripts111),
  (0x113, scripts113), (0x114, scripts114), (0x115, scripts115), (0x119, scripts119),
  (0x161, scripts161), (0x16D, scripts16D)]

end ModelCatalog.Text.Compatibility
