import Relevance.Unicode.RangeTable

/-! The property Word_Break, by which the default word boundaries are drawn, and the property
Extended_Pictographic, which one of the boundary rules needs besides. Both are those of version
17.0 of the character database. -/

set_option autoImplicit false
set_option maxRecDepth 20000

namespace Relevance.Unicode

inductive WordBreak where
  | other
  | cr
  | lf
  | newline
  | extend
  | zwj
  | format
  | regionalIndicator
  | katakana
  | hebrewLetter
  | aLetter
  | singleQuote
  | doubleQuote
  | midNumLet
  | midLetter
  | midNum
  | numeric
  | extendNumLet
  | wSegSpace
  deriving DecidableEq, Repr

namespace WordBreak

/-- The code points above U+007F whose class is not `other`. -/
def rows : List (Nat × Nat × WordBreak) := [
  (0x0085, 0x0085, .newline), (0x00AA, 0x00AA, .aLetter), (0x00AD, 0x00AD, .format),
  (0x00B5, 0x00B5, .aLetter), (0x00B7, 0x00B7, .midLetter), (0x00B8, 0x00B8, .aLetter),
  (0x00BA, 0x00BA, .aLetter), (0x00C0, 0x00D6, .aLetter), (0x00D8, 0x00F6, .aLetter),
  (0x00F8, 0x02D7, .aLetter), (0x02DE, 0x02FF, .aLetter), (0x0300, 0x036F, .extend),
  (0x0370, 0x0374, .aLetter), (0x0376, 0x0377, .aLetter), (0x037A, 0x037D, .aLetter),
  (0x037E, 0x037E, .midNum), (0x037F, 0x037F, .aLetter), (0x0386, 0x0386, .aLetter),
  (0x0387, 0x0387, .midLetter), (0x0388, 0x038A, .aLetter), (0x038C, 0x038C, .aLetter),
  (0x038E, 0x03A1, .aLetter), (0x03A3, 0x03F5, .aLetter), (0x03F7, 0x0481, .aLetter),
  (0x0483, 0x0489, .extend), (0x048A, 0x052F, .aLetter), (0x0531, 0x0556, .aLetter),
  (0x0559, 0x055C, .aLetter), (0x055E, 0x055E, .aLetter), (0x055F, 0x055F, .midLetter),
  (0x0560, 0x0588, .aLetter), (0x0589, 0x0589, .midNum), (0x058A, 0x058A, .aLetter),
  (0x0591, 0x05BD, .extend), (0x05BF, 0x05BF, .extend), (0x05C1, 0x05C2, .extend),
  (0x05C4, 0x05C5, .extend), (0x05C7, 0x05C7, .extend), (0x05D0, 0x05EA, .hebrewLetter),
  (0x05EF, 0x05F2, .hebrewLetter), (0x05F3, 0x05F3, .aLetter), (0x05F4, 0x05F4, .midLetter),
  (0x0600, 0x0605, .numeric), (0x060C, 0x060D, .midNum), (0x0610, 0x061A, .extend),
  (0x061C, 0x061C, .format), (0x0620, 0x064A, .aLetter), (0x064B, 0x065F, .extend),
  (0x0660, 0x0669, .numeric), (0x066B, 0x066B, .numeric), (0x066C, 0x066C, .midNum),
  (0x066E, 0x066F, .aLetter), (0x0670, 0x0670, .extend), (0x0671, 0x06D3, .aLetter),
  (0x06D5, 0x06D5, .aLetter), (0x06D6, 0x06DC, .extend), (0x06DD, 0x06DD, .numeric),
  (0x06DF, 0x06E4, .extend), (0x06E5, 0x06E6, .aLetter), (0x06E7, 0x06E8, .extend),
  (0x06EA, 0x06ED, .extend), (0x06EE, 0x06EF, .aLetter), (0x06F0, 0x06F9, .numeric),
  (0x06FA, 0x06FC, .aLetter), (0x06FF, 0x06FF, .aLetter), (0x070F, 0x0710, .aLetter),
  (0x0711, 0x0711, .extend), (0x0712, 0x072F, .aLetter), (0x0730, 0x074A, .extend),
  (0x074D, 0x07A5, .aLetter), (0x07A6, 0x07B0, .extend), (0x07B1, 0x07B1, .aLetter),
  (0x07C0, 0x07C9, .numeric), (0x07CA, 0x07EA, .aLetter), (0x07EB, 0x07F3, .extend),
  (0x07F4, 0x07F5, .aLetter), (0x07F8, 0x07F8, .midNum), (0x07FA, 0x07FA, .aLetter),
  (0x07FD, 0x07FD, .extend), (0x0800, 0x0815, .aLetter), (0x0816, 0x0819, .extend),
  (0x081A, 0x081A, .aLetter), (0x081B, 0x0823, .extend), (0x0824, 0x0824, .aLetter),
  (0x0825, 0x0827, .extend), (0x0828, 0x0828, .aLetter), (0x0829, 0x082D, .extend),
  (0x0840, 0x0858, .aLetter), (0x0859, 0x085B, .extend), (0x0860, 0x086A, .aLetter),
  (0x0870, 0x0887, .aLetter), (0x0889, 0x088F, .aLetter), (0x0890, 0x0891, .numeric),
  (0x0897, 0x089F, .extend), (0x08A0, 0x08C9, .aLetter), (0x08CA, 0x08E1, .extend),
  (0x08E2, 0x08E2, .numeric), (0x08E3, 0x0903, .extend), (0x0904, 0x0939, .aLetter),
  (0x093A, 0x093C, .extend), (0x093D, 0x093D, .aLetter), (0x093E, 0x094F, .extend),
  (0x0950, 0x0950, .aLetter), (0x0951, 0x0957, .extend), (0x0958, 0x0961, .aLetter),
  (0x0962, 0x0963, .extend), (0x0966, 0x096F, .numeric), (0x0971, 0x0980, .aLetter),
  (0x0981, 0x0983, .extend), (0x0985, 0x098C, .aLetter), (0x098F, 0x0990, .aLetter),
  (0x0993, 0x09A8, .aLetter), (0x09AA, 0x09B0, .aLetter), (0x09B2, 0x09B2, .aLetter),
  (0x09B6, 0x09B9, .aLetter), (0x09BC, 0x09BC, .extend), (0x09BD, 0x09BD, .aLetter),
  (0x09BE, 0x09C4, .extend), (0x09C7, 0x09C8, .extend), (0x09CB, 0x09CD, .extend),
  (0x09CE, 0x09CE, .aLetter), (0x09D7, 0x09D7, .extend), (0x09DC, 0x09DD, .aLetter),
  (0x09DF, 0x09E1, .aLetter), (0x09E2, 0x09E3, .extend), (0x09E6, 0x09EF, .numeric),
  (0x09F0, 0x09F1, .aLetter), (0x09FC, 0x09FC, .aLetter), (0x09FE, 0x09FE, .extend),
  (0x0A01, 0x0A03, .extend), (0x0A05, 0x0A0A, .aLetter), (0x0A0F, 0x0A10, .aLetter),
  (0x0A13, 0x0A28, .aLetter), (0x0A2A, 0x0A30, .aLetter), (0x0A32, 0x0A33, .aLetter),
  (0x0A35, 0x0A36, .aLetter), (0x0A38, 0x0A39, .aLetter), (0x0A3C, 0x0A3C, .extend),
  (0x0A3E, 0x0A42, .extend), (0x0A47, 0x0A48, .extend), (0x0A4B, 0x0A4D, .extend),
  (0x0A51, 0x0A51, .extend), (0x0A59, 0x0A5C, .aLetter), (0x0A5E, 0x0A5E, .aLetter),
  (0x0A66, 0x0A6F, .numeric), (0x0A70, 0x0A71, .extend), (0x0A72, 0x0A74, .aLetter),
  (0x0A75, 0x0A75, .extend), (0x0A81, 0x0A83, .extend), (0x0A85, 0x0A8D, .aLetter),
  (0x0A8F, 0x0A91, .aLetter), (0x0A93, 0x0AA8, .aLetter), (0x0AAA, 0x0AB0, .aLetter),
  (0x0AB2, 0x0AB3, .aLetter), (0x0AB5, 0x0AB9, .aLetter), (0x0ABC, 0x0ABC, .extend),
  (0x0ABD, 0x0ABD, .aLetter), (0x0ABE, 0x0AC5, .extend), (0x0AC7, 0x0AC9, .extend),
  (0x0ACB, 0x0ACD, .extend), (0x0AD0, 0x0AD0, .aLetter), (0x0AE0, 0x0AE1, .aLetter),
  (0x0AE2, 0x0AE3, .extend), (0x0AE6, 0x0AEF, .numeric), (0x0AF9, 0x0AF9, .aLetter),
  (0x0AFA, 0x0AFF, .extend), (0x0B01, 0x0B03, .extend), (0x0B05, 0x0B0C, .aLetter),
  (0x0B0F, 0x0B10, .aLetter), (0x0B13, 0x0B28, .aLetter), (0x0B2A, 0x0B30, .aLetter),
  (0x0B32, 0x0B33, .aLetter), (0x0B35, 0x0B39, .aLetter), (0x0B3C, 0x0B3C, .extend),
  (0x0B3D, 0x0B3D, .aLetter), (0x0B3E, 0x0B44, .extend), (0x0B47, 0x0B48, .extend),
  (0x0B4B, 0x0B4D, .extend), (0x0B55, 0x0B57, .extend), (0x0B5C, 0x0B5D, .aLetter),
  (0x0B5F, 0x0B61, .aLetter), (0x0B62, 0x0B63, .extend), (0x0B66, 0x0B6F, .numeric),
  (0x0B71, 0x0B71, .aLetter), (0x0B82, 0x0B82, .extend), (0x0B83, 0x0B83, .aLetter),
  (0x0B85, 0x0B8A, .aLetter), (0x0B8E, 0x0B90, .aLetter), (0x0B92, 0x0B95, .aLetter),
  (0x0B99, 0x0B9A, .aLetter), (0x0B9C, 0x0B9C, .aLetter), (0x0B9E, 0x0B9F, .aLetter),
  (0x0BA3, 0x0BA4, .aLetter), (0x0BA8, 0x0BAA, .aLetter), (0x0BAE, 0x0BB9, .aLetter),
  (0x0BBE, 0x0BC2, .extend), (0x0BC6, 0x0BC8, .extend), (0x0BCA, 0x0BCD, .extend),
  (0x0BD0, 0x0BD0, .aLetter), (0x0BD7, 0x0BD7, .extend), (0x0BE6, 0x0BEF, .numeric),
  (0x0C00, 0x0C04, .extend), (0x0C05, 0x0C0C, .aLetter), (0x0C0E, 0x0C10, .aLetter),
  (0x0C12, 0x0C28, .aLetter), (0x0C2A, 0x0C39, .aLetter), (0x0C3C, 0x0C3C, .extend),
  (0x0C3D, 0x0C3D, .aLetter), (0x0C3E, 0x0C44, .extend), (0x0C46, 0x0C48, .extend),
  (0x0C4A, 0x0C4D, .extend), (0x0C55, 0x0C56, .extend), (0x0C58, 0x0C5A, .aLetter),
  (0x0C5C, 0x0C5D, .aLetter), (0x0C60, 0x0C61, .aLetter), (0x0C62, 0x0C63, .extend),
  (0x0C66, 0x0C6F, .numeric), (0x0C80, 0x0C80, .aLetter), (0x0C81, 0x0C83, .extend),
  (0x0C85, 0x0C8C, .aLetter), (0x0C8E, 0x0C90, .aLetter), (0x0C92, 0x0CA8, .aLetter),
  (0x0CAA, 0x0CB3, .aLetter), (0x0CB5, 0x0CB9, .aLetter), (0x0CBC, 0x0CBC, .extend),
  (0x0CBD, 0x0CBD, .aLetter), (0x0CBE, 0x0CC4, .extend), (0x0CC6, 0x0CC8, .extend),
  (0x0CCA, 0x0CCD, .extend), (0x0CD5, 0x0CD6, .extend), (0x0CDC, 0x0CDE, .aLetter),
  (0x0CE0, 0x0CE1, .aLetter), (0x0CE2, 0x0CE3, .extend), (0x0CE6, 0x0CEF, .numeric),
  (0x0CF1, 0x0CF2, .aLetter), (0x0CF3, 0x0CF3, .extend), (0x0D00, 0x0D03, .extend),
  (0x0D04, 0x0D0C, .aLetter), (0x0D0E, 0x0D10, .aLetter), (0x0D12, 0x0D3A, .aLetter),
  (0x0D3B, 0x0D3C, .extend), (0x0D3D, 0x0D3D, .aLetter), (0x0D3E, 0x0D44, .extend),
  (0x0D46, 0x0D48, .extend), (0x0D4A, 0x0D4D, .extend), (0x0D4E, 0x0D4E, .aLetter),
  (0x0D54, 0x0D56, .aLetter), (0x0D57, 0x0D57, .extend), (0x0D5F, 0x0D61, .aLetter),
  (0x0D62, 0x0D63, .extend), (0x0D66, 0x0D6F, .numeric), (0x0D7A, 0x0D7F, .aLetter),
  (0x0D81, 0x0D83, .extend), (0x0D85, 0x0D96, .aLetter), (0x0D9A, 0x0DB1, .aLetter),
  (0x0DB3, 0x0DBB, .aLetter), (0x0DBD, 0x0DBD, .aLetter), (0x0DC0, 0x0DC6, .aLetter),
  (0x0DCA, 0x0DCA, .extend), (0x0DCF, 0x0DD4, .extend), (0x0DD6, 0x0DD6, .extend),
  (0x0DD8, 0x0DDF, .extend), (0x0DE6, 0x0DEF, .numeric), (0x0DF2, 0x0DF3, .extend),
  (0x0E31, 0x0E31, .extend), (0x0E34, 0x0E3A, .extend), (0x0E47, 0x0E4E, .extend),
  (0x0E50, 0x0E59, .numeric), (0x0EB1, 0x0EB1, .extend), (0x0EB4, 0x0EBC, .extend),
  (0x0EC8, 0x0ECE, .extend), (0x0ED0, 0x0ED9, .numeric), (0x0F00, 0x0F00, .aLetter),
  (0x0F18, 0x0F19, .extend), (0x0F20, 0x0F29, .numeric), (0x0F35, 0x0F35, .extend),
  (0x0F37, 0x0F37, .extend), (0x0F39, 0x0F39, .extend), (0x0F3E, 0x0F3F, .extend),
  (0x0F40, 0x0F47, .aLetter), (0x0F49, 0x0F6C, .aLetter), (0x0F71, 0x0F84, .extend),
  (0x0F86, 0x0F87, .extend), (0x0F88, 0x0F8C, .aLetter), (0x0F8D, 0x0F97, .extend),
  (0x0F99, 0x0FBC, .extend), (0x0FC6, 0x0FC6, .extend), (0x102B, 0x103E, .extend),
  (0x1040, 0x1049, .numeric), (0x1056, 0x1059, .extend), (0x105E, 0x1060, .extend),
  (0x1062, 0x1064, .extend), (0x1067, 0x106D, .extend), (0x1071, 0x1074, .extend),
  (0x1082, 0x108D, .extend), (0x108F, 0x108F, .extend), (0x1090, 0x1099, .numeric),
  (0x109A, 0x109D, .extend), (0x10A0, 0x10C5, .aLetter), (0x10C7, 0x10C7, .aLetter),
  (0x10CD, 0x10CD, .aLetter), (0x10D0, 0x10FA, .aLetter), (0x10FC, 0x1248, .aLetter),
  (0x124A, 0x124D, .aLetter), (0x1250, 0x1256, .aLetter), (0x1258, 0x1258, .aLetter),
  (0x125A, 0x125D, .aLetter), (0x1260, 0x1288, .aLetter), (0x128A, 0x128D, .aLetter),
  (0x1290, 0x12B0, .aLetter), (0x12B2, 0x12B5, .aLetter), (0x12B8, 0x12BE, .aLetter),
  (0x12C0, 0x12C0, .aLetter), (0x12C2, 0x12C5, .aLetter), (0x12C8, 0x12D6, .aLetter),
  (0x12D8, 0x1310, .aLetter), (0x1312, 0x1315, .aLetter), (0x1318, 0x135A, .aLetter),
  (0x135D, 0x135F, .extend), (0x1380, 0x138F, .aLetter), (0x13A0, 0x13F5, .aLetter),
  (0x13F8, 0x13FD, .aLetter), (0x1401, 0x166C, .aLetter), (0x166F, 0x167F, .aLetter),
  (0x1680, 0x1680, .wSegSpace), (0x1681, 0x169A, .aLetter), (0x16A0, 0x16EA, .aLetter),
  (0x16EE, 0x16F8, .aLetter), (0x1700, 0x1711, .aLetter), (0x1712, 0x1715, .extend),
  (0x171F, 0x1731, .aLetter), (0x1732, 0x1734, .extend), (0x1740, 0x1751, .aLetter),
  (0x1752, 0x1753, .extend), (0x1760, 0x176C, .aLetter), (0x176E, 0x1770, .aLetter),
  (0x1772, 0x1773, .extend), (0x17B4, 0x17D3, .extend), (0x17DD, 0x17DD, .extend),
  (0x17E0, 0x17E9, .numeric), (0x180B, 0x180D, .extend), (0x180E, 0x180E, .format),
  (0x180F, 0x180F, .extend), (0x1810, 0x1819, .numeric), (0x1820, 0x1878, .aLetter),
  (0x1880, 0x1884, .aLetter), (0x1885, 0x1886, .extend), (0x1887, 0x18A8, .aLetter),
  (0x18A9, 0x18A9, .extend), (0x18AA, 0x18AA, .aLetter), (0x18B0, 0x18F5, .aLetter),
  (0x1900, 0x191E, .aLetter), (0x1920, 0x192B, .extend), (0x1930, 0x193B, .extend),
  (0x1946, 0x194F, .numeric), (0x19D0, 0x19DA, .numeric), (0x1A00, 0x1A16, .aLetter),
  (0x1A17, 0x1A1B, .extend), (0x1A55, 0x1A5E, .extend), (0x1A60, 0x1A7C, .extend),
  (0x1A7F, 0x1A7F, .extend), (0x1A80, 0x1A89, .numeric), (0x1A90, 0x1A99, .numeric),
  (0x1AB0, 0x1ADD, .extend), (0x1AE0, 0x1AEB, .extend), (0x1B00, 0x1B04, .extend),
  (0x1B05, 0x1B33, .aLetter), (0x1B34, 0x1B44, .extend), (0x1B45, 0x1B4C, .aLetter),
  (0x1B50, 0x1B59, .numeric), (0x1B6B, 0x1B73, .extend), (0x1B80, 0x1B82, .extend),
  (0x1B83, 0x1BA0, .aLetter), (0x1BA1, 0x1BAD, .extend), (0x1BAE, 0x1BAF, .aLetter),
  (0x1BB0, 0x1BB9, .numeric), (0x1BBA, 0x1BE5, .aLetter), (0x1BE6, 0x1BF3, .extend),
  (0x1C00, 0x1C23, .aLetter), (0x1C24, 0x1C37, .extend), (0x1C40, 0x1C49, .numeric),
  (0x1C4D, 0x1C4F, .aLetter), (0x1C50, 0x1C59, .numeric), (0x1C5A, 0x1C7D, .aLetter),
  (0x1C80, 0x1C8A, .aLetter), (0x1C90, 0x1CBA, .aLetter), (0x1CBD, 0x1CBF, .aLetter),
  (0x1CD0, 0x1CD2, .extend), (0x1CD4, 0x1CE8, .extend), (0x1CE9, 0x1CEC, .aLetter),
  (0x1CED, 0x1CED, .extend), (0x1CEE, 0x1CF3, .aLetter), (0x1CF4, 0x1CF4, .extend),
  (0x1CF5, 0x1CF6, .aLetter), (0x1CF7, 0x1CF9, .extend), (0x1CFA, 0x1CFA, .aLetter),
  (0x1D00, 0x1DBF, .aLetter), (0x1DC0, 0x1DFF, .extend), (0x1E00, 0x1F15, .aLetter),
  (0x1F18, 0x1F1D, .aLetter), (0x1F20, 0x1F45, .aLetter), (0x1F48, 0x1F4D, .aLetter),
  (0x1F50, 0x1F57, .aLetter), (0x1F59, 0x1F59, .aLetter), (0x1F5B, 0x1F5B, .aLetter),
  (0x1F5D, 0x1F5D, .aLetter), (0x1F5F, 0x1F7D, .aLetter), (0x1F80, 0x1FB4, .aLetter),
  (0x1FB6, 0x1FBC, .aLetter), (0x1FBE, 0x1FBE, .aLetter), (0x1FC2, 0x1FC4, .aLetter),
  (0x1FC6, 0x1FCC, .aLetter), (0x1FD0, 0x1FD3, .aLetter), (0x1FD6, 0x1FDB, .aLetter),
  (0x1FE0, 0x1FEC, .aLetter), (0x1FF2, 0x1FF4, .aLetter), (0x1FF6, 0x1FFC, .aLetter),
  (0x2000, 0x2006, .wSegSpace), (0x2008, 0x200A, .wSegSpace), (0x200C, 0x200C, .extend),
  (0x200D, 0x200D, .zwj), (0x200E, 0x200F, .format), (0x2018, 0x2019, .midNumLet),
  (0x2024, 0x2024, .midNumLet), (0x2027, 0x2027, .midLetter), (0x2028, 0x2029, .newline),
  (0x202A, 0x202E, .format), (0x202F, 0x202F, .extendNumLet), (0x203F, 0x2040, .extendNumLet),
  (0x2044, 0x2044, .midNum), (0x2054, 0x2054, .extendNumLet), (0x205F, 0x205F, .wSegSpace),
  (0x2060, 0x2064, .format), (0x2066, 0x206F, .format), (0x2071, 0x2071, .aLetter),
  (0x207F, 0x207F, .aLetter), (0x2090, 0x209C, .aLetter), (0x20D0, 0x20F0, .extend),
  (0x2102, 0x2102, .aLetter), (0x2107, 0x2107, .aLetter), (0x210A, 0x2113, .aLetter),
  (0x2115, 0x2115, .aLetter), (0x2119, 0x211D, .aLetter), (0x2124, 0x2124, .aLetter),
  (0x2126, 0x2126, .aLetter), (0x2128, 0x2128, .aLetter), (0x212A, 0x212D, .aLetter),
  (0x212F, 0x2139, .aLetter), (0x213C, 0x213F, .aLetter), (0x2145, 0x2149, .aLetter),
  (0x214E, 0x214E, .aLetter), (0x2160, 0x2188, .aLetter), (0x24B6, 0x24E9, .aLetter),
  (0x2C00, 0x2CE4, .aLetter), (0x2CEB, 0x2CEE, .aLetter), (0x2CEF, 0x2CF1, .extend),
  (0x2CF2, 0x2CF3, .aLetter), (0x2D00, 0x2D25, .aLetter), (0x2D27, 0x2D27, .aLetter),
  (0x2D2D, 0x2D2D, .aLetter), (0x2D30, 0x2D67, .aLetter), (0x2D6F, 0x2D6F, .aLetter),
  (0x2D7F, 0x2D7F, .extend), (0x2D80, 0x2D96, .aLetter), (0x2DA0, 0x2DA6, .aLetter),
  (0x2DA8, 0x2DAE, .aLetter), (0x2DB0, 0x2DB6, .aLetter), (0x2DB8, 0x2DBE, .aLetter),
  (0x2DC0, 0x2DC6, .aLetter), (0x2DC8, 0x2DCE, .aLetter), (0x2DD0, 0x2DD6, .aLetter),
  (0x2DD8, 0x2DDE, .aLetter), (0x2DE0, 0x2DFF, .extend), (0x2E2F, 0x2E2F, .aLetter),
  (0x3000, 0x3000, .wSegSpace), (0x3005, 0x3005, .aLetter), (0x302A, 0x302F, .extend),
  (0x3031, 0x3035, .katakana), (0x303B, 0x303C, .aLetter), (0x3099, 0x309A, .extend),
  (0x309B, 0x309C, .katakana), (0x30A0, 0x30FA, .katakana), (0x30FC, 0x30FF, .katakana),
  (0x3105, 0x312F, .aLetter), (0x3131, 0x318E, .aLetter), (0x31A0, 0x31BF, .aLetter),
  (0x31F0, 0x31FF, .katakana), (0x32D0, 0x32FE, .katakana), (0x3300, 0x3357, .katakana),
  (0xA000, 0xA48C, .aLetter), (0xA4D0, 0xA4FD, .aLetter), (0xA500, 0xA60C, .aLetter),
  (0xA610, 0xA61F, .aLetter), (0xA620, 0xA629, .numeric), (0xA62A, 0xA62B, .aLetter),
  (0xA640, 0xA66E, .aLetter), (0xA66F, 0xA672, .extend), (0xA674, 0xA67D, .extend),
  (0xA67F, 0xA69D, .aLetter), (0xA69E, 0xA69F, .extend), (0xA6A0, 0xA6EF, .aLetter),
  (0xA6F0, 0xA6F1, .extend), (0xA708, 0xA7DC, .aLetter), (0xA7F1, 0xA801, .aLetter),
  (0xA802, 0xA802, .extend), (0xA803, 0xA805, .aLetter), (0xA806, 0xA806, .extend),
  (0xA807, 0xA80A, .aLetter), (0xA80B, 0xA80B, .extend), (0xA80C, 0xA822, .aLetter),
  (0xA823, 0xA827, .extend), (0xA82C, 0xA82C, .extend), (0xA840, 0xA873, .aLetter),
  (0xA880, 0xA881, .extend), (0xA882, 0xA8B3, .aLetter), (0xA8B4, 0xA8C5, .extend),
  (0xA8D0, 0xA8D9, .numeric), (0xA8E0, 0xA8F1, .extend), (0xA8F2, 0xA8F7, .aLetter),
  (0xA8FB, 0xA8FB, .aLetter), (0xA8FD, 0xA8FE, .aLetter), (0xA8FF, 0xA8FF, .extend),
  (0xA900, 0xA909, .numeric), (0xA90A, 0xA925, .aLetter), (0xA926, 0xA92D, .extend),
  (0xA930, 0xA946, .aLetter), (0xA947, 0xA953, .extend), (0xA960, 0xA97C, .aLetter),
  (0xA980, 0xA983, .extend), (0xA984, 0xA9B2, .aLetter), (0xA9B3, 0xA9C0, .extend),
  (0xA9CF, 0xA9CF, .aLetter), (0xA9D0, 0xA9D9, .numeric), (0xA9E5, 0xA9E5, .extend),
  (0xA9F0, 0xA9F9, .numeric), (0xAA00, 0xAA28, .aLetter), (0xAA29, 0xAA36, .extend),
  (0xAA40, 0xAA42, .aLetter), (0xAA43, 0xAA43, .extend), (0xAA44, 0xAA4B, .aLetter),
  (0xAA4C, 0xAA4D, .extend), (0xAA50, 0xAA59, .numeric), (0xAA7B, 0xAA7D, .extend),
  (0xAAB0, 0xAAB0, .extend), (0xAAB2, 0xAAB4, .extend), (0xAAB7, 0xAAB8, .extend),
  (0xAABE, 0xAABF, .extend), (0xAAC1, 0xAAC1, .extend), (0xAAE0, 0xAAEA, .aLetter),
  (0xAAEB, 0xAAEF, .extend), (0xAAF2, 0xAAF4, .aLetter), (0xAAF5, 0xAAF6, .extend),
  (0xAB01, 0xAB06, .aLetter), (0xAB09, 0xAB0E, .aLetter), (0xAB11, 0xAB16, .aLetter),
  (0xAB20, 0xAB26, .aLetter), (0xAB28, 0xAB2E, .aLetter), (0xAB30, 0xAB69, .aLetter),
  (0xAB70, 0xABE2, .aLetter), (0xABE3, 0xABEA, .extend), (0xABEC, 0xABED, .extend),
  (0xABF0, 0xABF9, .numeric), (0xAC00, 0xD7A3, .aLetter), (0xD7B0, 0xD7C6, .aLetter),
  (0xD7CB, 0xD7FB, .aLetter), (0xFB00, 0xFB06, .aLetter), (0xFB13, 0xFB17, .aLetter),
  (0xFB1D, 0xFB1D, .hebrewLetter), (0xFB1E, 0xFB1E, .extend), (0xFB1F, 0xFB28, .hebrewLetter),
  (0xFB2A, 0xFB36, .hebrewLetter), (0xFB38, 0xFB3C, .hebrewLetter),
  (0xFB3E, 0xFB3E, .hebrewLetter), (0xFB40, 0xFB41, .hebrewLetter),
  (0xFB43, 0xFB44, .hebrewLetter), (0xFB46, 0xFB4F, .hebrewLetter), (0xFB50, 0xFBB1, .aLetter),
  (0xFBD3, 0xFD3D, .aLetter), (0xFD50, 0xFD8F, .aLetter), (0xFD92, 0xFDC7, .aLetter),
  (0xFDF0, 0xFDFB, .aLetter), (0xFE00, 0xFE0F, .extend), (0xFE13, 0xFE13, .midLetter),
  (0xFE20, 0xFE2F, .extend), (0xFE33, 0xFE34, .extendNumLet), (0xFE4D, 0xFE4F, .extendNumLet),
  (0xFE50, 0xFE50, .midNum), (0xFE52, 0xFE52, .midNumLet), (0xFE54, 0xFE54, .midNum),
  (0xFE55, 0xFE55, .midLetter), (0xFE70, 0xFE74, .aLetter), (0xFE76, 0xFEFC, .aLetter),
  (0xFEFF, 0xFEFF, .format), (0xFF07, 0xFF07, .midNumLet), (0xFF0C, 0xFF0C, .midNum),
  (0xFF0E, 0xFF0E, .midNumLet), (0xFF10, 0xFF19, .numeric), (0xFF1A, 0xFF1A, .midLetter),
  (0xFF1B, 0xFF1B, .midNum), (0xFF21, 0xFF3A, .aLetter), (0xFF3F, 0xFF3F, .extendNumLet),
  (0xFF41, 0xFF5A, .aLetter), (0xFF66, 0xFF9D, .katakana), (0xFF9E, 0xFF9F, .extend),
  (0xFFA0, 0xFFBE, .aLetter), (0xFFC2, 0xFFC7, .aLetter), (0xFFCA, 0xFFCF, .aLetter),
  (0xFFD2, 0xFFD7, .aLetter), (0xFFDA, 0xFFDC, .aLetter), (0xFFF9, 0xFFFB, .format),
  (0x10000, 0x1000B, .aLetter), (0x1000D, 0x10026, .aLetter), (0x10028, 0x1003A, .aLetter),
  (0x1003C, 0x1003D, .aLetter), (0x1003F, 0x1004D, .aLetter), (0x10050, 0x1005D, .aLetter),
  (0x10080, 0x100FA, .aLetter), (0x10140, 0x10174, .aLetter), (0x101FD, 0x101FD, .extend),
  (0x10280, 0x1029C, .aLetter), (0x102A0, 0x102D0, .aLetter), (0x102E0, 0x102E0, .extend),
  (0x10300, 0x1031F, .aLetter), (0x1032D, 0x1034A, .aLetter), (0x10350, 0x10375, .aLetter),
  (0x10376, 0x1037A, .extend), (0x10380, 0x1039D, .aLetter), (0x103A0, 0x103C3, .aLetter),
  (0x103C8, 0x103CF, .aLetter), (0x103D1, 0x103D5, .aLetter), (0x10400, 0x1049D, .aLetter),
  (0x104A0, 0x104A9, .numeric), (0x104B0, 0x104D3, .aLetter), (0x104D8, 0x104FB, .aLetter),
  (0x10500, 0x10527, .aLetter), (0x10530, 0x10563, .aLetter), (0x10570, 0x1057A, .aLetter),
  (0x1057C, 0x1058A, .aLetter), (0x1058C, 0x10592, .aLetter), (0x10594, 0x10595, .aLetter),
  (0x10597, 0x105A1, .aLetter), (0x105A3, 0x105B1, .aLetter), (0x105B3, 0x105B9, .aLetter),
  (0x105BB, 0x105BC, .aLetter), (0x105C0, 0x105F3, .aLetter), (0x10600, 0x10736, .aLetter),
  (0x10740, 0x10755, .aLetter), (0x10760, 0x10767, .aLetter), (0x10780, 0x10785, .aLetter),
  (0x10787, 0x107B0, .aLetter), (0x107B2, 0x107BA, .aLetter), (0x10800, 0x10805, .aLetter),
  (0x10808, 0x10808, .aLetter), (0x1080A, 0x10835, .aLetter), (0x10837, 0x10838, .aLetter),
  (0x1083C, 0x1083C, .aLetter), (0x1083F, 0x10855, .aLetter), (0x10860, 0x10876, .aLetter),
  (0x10880, 0x1089E, .aLetter), (0x108E0, 0x108F2, .aLetter), (0x108F4, 0x108F5, .aLetter),
  (0x10900, 0x10915, .aLetter), (0x10920, 0x10939, .aLetter), (0x10940, 0x10959, .aLetter),
  (0x10980, 0x109B7, .aLetter), (0x109BE, 0x109BF, .aLetter), (0x10A00, 0x10A00, .aLetter),
  (0x10A01, 0x10A03, .extend), (0x10A05, 0x10A06, .extend), (0x10A0C, 0x10A0F, .extend),
  (0x10A10, 0x10A13, .aLetter), (0x10A15, 0x10A17, .aLetter), (0x10A19, 0x10A35, .aLetter),
  (0x10A38, 0x10A3A, .extend), (0x10A3F, 0x10A3F, .extend), (0x10A60, 0x10A7C, .aLetter),
  (0x10A80, 0x10A9C, .aLetter), (0x10AC0, 0x10AC7, .aLetter), (0x10AC9, 0x10AE4, .aLetter),
  (0x10AE5, 0x10AE6, .extend), (0x10B00, 0x10B35, .aLetter), (0x10B40, 0x10B55, .aLetter),
  (0x10B60, 0x10B72, .aLetter), (0x10B80, 0x10B91, .aLetter), (0x10C00, 0x10C48, .aLetter),
  (0x10C80, 0x10CB2, .aLetter), (0x10CC0, 0x10CF2, .aLetter), (0x10D00, 0x10D23, .aLetter),
  (0x10D24, 0x10D27, .extend), (0x10D30, 0x10D39, .numeric), (0x10D40, 0x10D49, .numeric),
  (0x10D4A, 0x10D65, .aLetter), (0x10D69, 0x10D6D, .extend), (0x10D6F, 0x10D85, .aLetter),
  (0x10E80, 0x10EA9, .aLetter), (0x10EAB, 0x10EAC, .extend), (0x10EB0, 0x10EB1, .aLetter),
  (0x10EC2, 0x10EC7, .aLetter), (0x10EFA, 0x10EFF, .extend), (0x10F00, 0x10F1C, .aLetter),
  (0x10F27, 0x10F27, .aLetter), (0x10F30, 0x10F45, .aLetter), (0x10F46, 0x10F50, .extend),
  (0x10F70, 0x10F81, .aLetter), (0x10F82, 0x10F85, .extend), (0x10FB0, 0x10FC4, .aLetter),
  (0x10FE0, 0x10FF6, .aLetter), (0x11000, 0x11002, .extend), (0x11003, 0x11037, .aLetter),
  (0x11038, 0x11046, .extend), (0x11066, 0x1106F, .numeric), (0x11070, 0x11070, .extend),
  (0x11071, 0x11072, .aLetter), (0x11073, 0x11074, .extend), (0x11075, 0x11075, .aLetter),
  (0x1107F, 0x11082, .extend), (0x11083, 0x110AF, .aLetter), (0x110B0, 0x110BA, .extend),
  (0x110BD, 0x110BD, .numeric), (0x110C2, 0x110C2, .extend), (0x110CD, 0x110CD, .numeric),
  (0x110D0, 0x110E8, .aLetter), (0x110F0, 0x110F9, .numeric), (0x11100, 0x11102, .extend),
  (0x11103, 0x11126, .aLetter), (0x11127, 0x11134, .extend), (0x11136, 0x1113F, .numeric),
  (0x11144, 0x11144, .aLetter), (0x11145, 0x11146, .extend), (0x11147, 0x11147, .aLetter),
  (0x11150, 0x11172, .aLetter), (0x11173, 0x11173, .extend), (0x11176, 0x11176, .aLetter),
  (0x11180, 0x11182, .extend), (0x11183, 0x111B2, .aLetter), (0x111B3, 0x111C0, .extend),
  (0x111C1, 0x111C4, .aLetter), (0x111C9, 0x111CC, .extend), (0x111CE, 0x111CF, .extend),
  (0x111D0, 0x111D9, .numeric), (0x111DA, 0x111DA, .aLetter), (0x111DC, 0x111DC, .aLetter),
  (0x11200, 0x11211, .aLetter), (0x11213, 0x1122B, .aLetter), (0x1122C, 0x11237, .extend),
  (0x1123E, 0x1123E, .extend), (0x1123F, 0x11240, .aLetter), (0x11241, 0x11241, .extend),
  (0x11280, 0x11286, .aLetter), (0x11288, 0x11288, .aLetter), (0x1128A, 0x1128D, .aLetter),
  (0x1128F, 0x1129D, .aLetter), (0x1129F, 0x112A8, .aLetter), (0x112B0, 0x112DE, .aLetter),
  (0x112DF, 0x112EA, .extend), (0x112F0, 0x112F9, .numeric), (0x11300, 0x11303, .extend),
  (0x11305, 0x1130C, .aLetter), (0x1130F, 0x11310, .aLetter), (0x11313, 0x11328, .aLetter),
  (0x1132A, 0x11330, .aLetter), (0x11332, 0x11333, .aLetter), (0x11335, 0x11339, .aLetter),
  (0x1133B, 0x1133C, .extend), (0x1133D, 0x1133D, .aLetter), (0x1133E, 0x11344, .extend),
  (0x11347, 0x11348, .extend), (0x1134B, 0x1134D, .extend), (0x11350, 0x11350, .aLetter),
  (0x11357, 0x11357, .extend), (0x1135D, 0x11361, .aLetter), (0x11362, 0x11363, .extend),
  (0x11366, 0x1136C, .extend), (0x11370, 0x11374, .extend), (0x11380, 0x11389, .aLetter),
  (0x1138B, 0x1138B, .aLetter), (0x1138E, 0x1138E, .aLetter), (0x11390, 0x113B5, .aLetter),
  (0x113B7, 0x113B7, .aLetter), (0x113B8, 0x113C0, .extend), (0x113C2, 0x113C2, .extend),
  (0x113C5, 0x113C5, .extend), (0x113C7, 0x113CA, .extend), (0x113CC, 0x113D0, .extend),
  (0x113D1, 0x113D1, .aLetter), (0x113D2, 0x113D2, .extend), (0x113D3, 0x113D3, .aLetter),
  (0x113E1, 0x113E2, .extend), (0x11400, 0x11434, .aLetter), (0x11435, 0x11446, .extend),
  (0x11447, 0x1144A, .aLetter), (0x11450, 0x11459, .numeric), (0x1145E, 0x1145E, .extend),
  (0x1145F, 0x11461, .aLetter), (0x11480, 0x114AF, .aLetter), (0x114B0, 0x114C3, .extend),
  (0x114C4, 0x114C5, .aLetter), (0x114C7, 0x114C7, .aLetter), (0x114D0, 0x114D9, .numeric),
  (0x11580, 0x115AE, .aLetter), (0x115AF, 0x115B5, .extend), (0x115B8, 0x115C0, .extend),
  (0x115D8, 0x115DB, .aLetter), (0x115DC, 0x115DD, .extend), (0x11600, 0x1162F, .aLetter),
  (0x11630, 0x11640, .extend), (0x11644, 0x11644, .aLetter), (0x11650, 0x11659, .numeric),
  (0x11680, 0x116AA, .aLetter), (0x116AB, 0x116B7, .extend), (0x116B8, 0x116B8, .aLetter),
  (0x116C0, 0x116C9, .numeric), (0x116D0, 0x116E3, .numeric), (0x1171D, 0x1172B, .extend),
  (0x11730, 0x11739, .numeric), (0x11800, 0x1182B, .aLetter), (0x1182C, 0x1183A, .extend),
  (0x118A0, 0x118DF, .aLetter), (0x118E0, 0x118E9, .numeric), (0x118FF, 0x11906, .aLetter),
  (0x11909, 0x11909, .aLetter), (0x1190C, 0x11913, .aLetter), (0x11915, 0x11916, .aLetter),
  (0x11918, 0x1192F, .aLetter), (0x11930, 0x11935, .extend), (0x11937, 0x11938, .extend),
  (0x1193B, 0x1193E, .extend), (0x1193F, 0x1193F, .aLetter), (0x11940, 0x11940, .extend),
  (0x11941, 0x11941, .aLetter), (0x11942, 0x11943, .extend), (0x11950, 0x11959, .numeric),
  (0x119A0, 0x119A7, .aLetter), (0x119AA, 0x119D0, .aLetter), (0x119D1, 0x119D7, .extend),
  (0x119DA, 0x119E0, .extend), (0x119E1, 0x119E1, .aLetter), (0x119E3, 0x119E3, .aLetter),
  (0x119E4, 0x119E4, .extend), (0x11A00, 0x11A00, .aLetter), (0x11A01, 0x11A0A, .extend),
  (0x11A0B, 0x11A32, .aLetter), (0x11A33, 0x11A39, .extend), (0x11A3A, 0x11A3A, .aLetter),
  (0x11A3B, 0x11A3E, .extend), (0x11A47, 0x11A47, .extend), (0x11A50, 0x11A50, .aLetter),
  (0x11A51, 0x11A5B, .extend), (0x11A5C, 0x11A89, .aLetter), (0x11A8A, 0x11A99, .extend),
  (0x11A9D, 0x11A9D, .aLetter), (0x11AB0, 0x11AF8, .aLetter), (0x11B60, 0x11B67, .extend),
  (0x11BC0, 0x11BE0, .aLetter), (0x11BF0, 0x11BF9, .numeric), (0x11C00, 0x11C08, .aLetter),
  (0x11C0A, 0x11C2E, .aLetter), (0x11C2F, 0x11C36, .extend), (0x11C38, 0x11C3F, .extend),
  (0x11C40, 0x11C40, .aLetter), (0x11C50, 0x11C59, .numeric), (0x11C72, 0x11C8F, .aLetter),
  (0x11C92, 0x11CA7, .extend), (0x11CA9, 0x11CB6, .extend), (0x11D00, 0x11D06, .aLetter),
  (0x11D08, 0x11D09, .aLetter), (0x11D0B, 0x11D30, .aLetter), (0x11D31, 0x11D36, .extend),
  (0x11D3A, 0x11D3A, .extend), (0x11D3C, 0x11D3D, .extend), (0x11D3F, 0x11D45, .extend),
  (0x11D46, 0x11D46, .aLetter), (0x11D47, 0x11D47, .extend), (0x11D50, 0x11D59, .numeric),
  (0x11D60, 0x11D65, .aLetter), (0x11D67, 0x11D68, .aLetter), (0x11D6A, 0x11D89, .aLetter),
  (0x11D8A, 0x11D8E, .extend), (0x11D90, 0x11D91, .extend), (0x11D93, 0x11D97, .extend),
  (0x11D98, 0x11D98, .aLetter), (0x11DA0, 0x11DA9, .numeric), (0x11DB0, 0x11DDB, .aLetter),
  (0x11DE0, 0x11DE9, .numeric), (0x11EE0, 0x11EF2, .aLetter), (0x11EF3, 0x11EF6, .extend),
  (0x11F00, 0x11F01, .extend), (0x11F02, 0x11F02, .aLetter), (0x11F03, 0x11F03, .extend),
  (0x11F04, 0x11F10, .aLetter), (0x11F12, 0x11F33, .aLetter), (0x11F34, 0x11F3A, .extend),
  (0x11F3E, 0x11F42, .extend), (0x11F50, 0x11F59, .numeric), (0x11F5A, 0x11F5A, .extend),
  (0x11FB0, 0x11FB0, .aLetter), (0x12000, 0x12399, .aLetter), (0x12400, 0x1246E, .aLetter),
  (0x12480, 0x12543, .aLetter), (0x12F90, 0x12FF0, .aLetter), (0x13000, 0x1342F, .aLetter),
  (0x13430, 0x1343F, .format), (0x13440, 0x13440, .extend), (0x13441, 0x13446, .aLetter),
  (0x13447, 0x13455, .extend), (0x13460, 0x143FA, .aLetter), (0x14400, 0x14646, .aLetter),
  (0x16100, 0x1611D, .aLetter), (0x1611E, 0x1612F, .extend), (0x16130, 0x16139, .numeric),
  (0x16800, 0x16A38, .aLetter), (0x16A40, 0x16A5E, .aLetter), (0x16A60, 0x16A69, .numeric),
  (0x16A70, 0x16ABE, .aLetter), (0x16AC0, 0x16AC9, .numeric), (0x16AD0, 0x16AED, .aLetter),
  (0x16AF0, 0x16AF4, .extend), (0x16B00, 0x16B2F, .aLetter), (0x16B30, 0x16B36, .extend),
  (0x16B40, 0x16B43, .aLetter), (0x16B50, 0x16B59, .numeric), (0x16B63, 0x16B77, .aLetter),
  (0x16B7D, 0x16B8F, .aLetter), (0x16D40, 0x16D6C, .aLetter), (0x16D70, 0x16D79, .numeric),
  (0x16E40, 0x16E7F, .aLetter), (0x16EA0, 0x16EB8, .aLetter), (0x16EBB, 0x16ED3, .aLetter),
  (0x16F00, 0x16F4A, .aLetter), (0x16F4F, 0x16F4F, .extend), (0x16F50, 0x16F50, .aLetter),
  (0x16F51, 0x16F87, .extend), (0x16F8F, 0x16F92, .extend), (0x16F93, 0x16F9F, .aLetter),
  (0x16FE0, 0x16FE1, .aLetter), (0x16FE3, 0x16FE3, .aLetter), (0x16FE4, 0x16FE4, .extend),
  (0x16FF0, 0x16FF1, .extend), (0x1AFF0, 0x1AFF3, .katakana), (0x1AFF5, 0x1AFFB, .katakana),
  (0x1AFFD, 0x1AFFE, .katakana), (0x1B000, 0x1B000, .katakana), (0x1B120, 0x1B122, .katakana),
  (0x1B155, 0x1B155, .katakana), (0x1B164, 0x1B167, .katakana), (0x1BC00, 0x1BC6A, .aLetter),
  (0x1BC70, 0x1BC7C, .aLetter), (0x1BC80, 0x1BC88, .aLetter), (0x1BC90, 0x1BC99, .aLetter),
  (0x1BC9D, 0x1BC9E, .extend), (0x1BCA0, 0x1BCA3, .format), (0x1CCF0, 0x1CCF9, .numeric),
  (0x1CF00, 0x1CF2D, .extend), (0x1CF30, 0x1CF46, .extend), (0x1D165, 0x1D169, .extend),
  (0x1D16D, 0x1D172, .extend), (0x1D173, 0x1D17A, .format), (0x1D17B, 0x1D182, .extend),
  (0x1D185, 0x1D18B, .extend), (0x1D1AA, 0x1D1AD, .extend), (0x1D242, 0x1D244, .extend),
  (0x1D400, 0x1D454, .aLetter), (0x1D456, 0x1D49C, .aLetter), (0x1D49E, 0x1D49F, .aLetter),
  (0x1D4A2, 0x1D4A2, .aLetter), (0x1D4A5, 0x1D4A6, .aLetter), (0x1D4A9, 0x1D4AC, .aLetter),
  (0x1D4AE, 0x1D4B9, .aLetter), (0x1D4BB, 0x1D4BB, .aLetter), (0x1D4BD, 0x1D4C3, .aLetter),
  (0x1D4C5, 0x1D505, .aLetter), (0x1D507, 0x1D50A, .aLetter), (0x1D50D, 0x1D514, .aLetter),
  (0x1D516, 0x1D51C, .aLetter), (0x1D51E, 0x1D539, .aLetter), (0x1D53B, 0x1D53E, .aLetter),
  (0x1D540, 0x1D544, .aLetter), (0x1D546, 0x1D546, .aLetter), (0x1D54A, 0x1D550, .aLetter),
  (0x1D552, 0x1D6A5, .aLetter), (0x1D6A8, 0x1D6C0, .aLetter), (0x1D6C2, 0x1D6DA, .aLetter),
  (0x1D6DC, 0x1D6FA, .aLetter), (0x1D6FC, 0x1D714, .aLetter), (0x1D716, 0x1D734, .aLetter),
  (0x1D736, 0x1D74E, .aLetter), (0x1D750, 0x1D76E, .aLetter), (0x1D770, 0x1D788, .aLetter),
  (0x1D78A, 0x1D7A8, .aLetter), (0x1D7AA, 0x1D7C2, .aLetter), (0x1D7C4, 0x1D7CB, .aLetter),
  (0x1D7CE, 0x1D7FF, .numeric), (0x1DA00, 0x1DA36, .extend), (0x1DA3B, 0x1DA6C, .extend),
  (0x1DA75, 0x1DA75, .extend), (0x1DA84, 0x1DA84, .extend), (0x1DA9B, 0x1DA9F, .extend),
  (0x1DAA1, 0x1DAAF, .extend), (0x1DF00, 0x1DF1E, .aLetter), (0x1DF25, 0x1DF2A, .aLetter),
  (0x1E000, 0x1E006, .extend), (0x1E008, 0x1E018, .extend), (0x1E01B, 0x1E021, .extend),
  (0x1E023, 0x1E024, .extend), (0x1E026, 0x1E02A, .extend), (0x1E030, 0x1E06D, .aLetter),
  (0x1E08F, 0x1E08F, .extend), (0x1E100, 0x1E12C, .aLetter), (0x1E130, 0x1E136, .extend),
  (0x1E137, 0x1E13D, .aLetter), (0x1E140, 0x1E149, .numeric), (0x1E14E, 0x1E14E, .aLetter),
  (0x1E290, 0x1E2AD, .aLetter), (0x1E2AE, 0x1E2AE, .extend), (0x1E2C0, 0x1E2EB, .aLetter),
  (0x1E2EC, 0x1E2EF, .extend), (0x1E2F0, 0x1E2F9, .numeric), (0x1E4D0, 0x1E4EB, .aLetter),
  (0x1E4EC, 0x1E4EF, .extend), (0x1E4F0, 0x1E4F9, .numeric), (0x1E5D0, 0x1E5ED, .aLetter),
  (0x1E5EE, 0x1E5EF, .extend), (0x1E5F0, 0x1E5F0, .aLetter), (0x1E5F1, 0x1E5FA, .numeric),
  (0x1E6C0, 0x1E6DE, .aLetter), (0x1E6E0, 0x1E6E2, .aLetter), (0x1E6E3, 0x1E6E3, .extend),
  (0x1E6E4, 0x1E6E5, .aLetter), (0x1E6E6, 0x1E6E6, .extend), (0x1E6E7, 0x1E6ED, .aLetter),
  (0x1E6EE, 0x1E6EF, .extend), (0x1E6F0, 0x1E6F4, .aLetter), (0x1E6F5, 0x1E6F5, .extend),
  (0x1E6FE, 0x1E6FF, .aLetter), (0x1E7E0, 0x1E7E6, .aLetter), (0x1E7E8, 0x1E7EB, .aLetter),
  (0x1E7ED, 0x1E7EE, .aLetter), (0x1E7F0, 0x1E7FE, .aLetter), (0x1E800, 0x1E8C4, .aLetter),
  (0x1E8D0, 0x1E8D6, .extend), (0x1E900, 0x1E943, .aLetter), (0x1E944, 0x1E94A, .extend),
  (0x1E94B, 0x1E94B, .aLetter), (0x1E950, 0x1E959, .numeric), (0x1EE00, 0x1EE03, .aLetter),
  (0x1EE05, 0x1EE1F, .aLetter), (0x1EE21, 0x1EE22, .aLetter), (0x1EE24, 0x1EE24, .aLetter),
  (0x1EE27, 0x1EE27, .aLetter), (0x1EE29, 0x1EE32, .aLetter), (0x1EE34, 0x1EE37, .aLetter),
  (0x1EE39, 0x1EE39, .aLetter), (0x1EE3B, 0x1EE3B, .aLetter), (0x1EE42, 0x1EE42, .aLetter),
  (0x1EE47, 0x1EE47, .aLetter), (0x1EE49, 0x1EE49, .aLetter), (0x1EE4B, 0x1EE4B, .aLetter),
  (0x1EE4D, 0x1EE4F, .aLetter), (0x1EE51, 0x1EE52, .aLetter), (0x1EE54, 0x1EE54, .aLetter),
  (0x1EE57, 0x1EE57, .aLetter), (0x1EE59, 0x1EE59, .aLetter), (0x1EE5B, 0x1EE5B, .aLetter),
  (0x1EE5D, 0x1EE5D, .aLetter), (0x1EE5F, 0x1EE5F, .aLetter), (0x1EE61, 0x1EE62, .aLetter),
  (0x1EE64, 0x1EE64, .aLetter), (0x1EE67, 0x1EE6A, .aLetter), (0x1EE6C, 0x1EE72, .aLetter),
  (0x1EE74, 0x1EE77, .aLetter), (0x1EE79, 0x1EE7C, .aLetter), (0x1EE7E, 0x1EE7E, .aLetter),
  (0x1EE80, 0x1EE89, .aLetter), (0x1EE8B, 0x1EE9B, .aLetter), (0x1EEA1, 0x1EEA3, .aLetter),
  (0x1EEA5, 0x1EEA9, .aLetter), (0x1EEAB, 0x1EEBB, .aLetter), (0x1F130, 0x1F149, .aLetter),
  (0x1F150, 0x1F169, .aLetter), (0x1F170, 0x1F189, .aLetter),
  (0x1F1E6, 0x1F1FF, .regionalIndicator), (0x1F3FB, 0x1F3FF, .extend),
  (0x1FBF0, 0x1FBF9, .numeric), (0xE0001, 0xE0001, .format), (0xE0020, 0xE007F, .extend),
  (0xE0100, 0xE01EF, .extend)]

def table : RangeTable WordBreak := RangeTable.ofRows rows

def ofAscii (c : Char) : WordBreak :=
  if c.isAlpha then .aLetter
  else if c.isDigit then .numeric
  else match c with
    | '\r' => .cr
    | '\n' => .lf
    | '\x0b' | '\x0c' => .newline
    | ' ' => .wSegSpace
    | '"' => .doubleQuote
    | '\x27' => .singleQuote
    | ',' | ';' => .midNum
    | '.' => .midNumLet
    | ':' => .midLetter
    | '_' => .extendNumLet
    | _ => .other

def ofChar (c : Char) : WordBreak :=
  if c.toNat < 0x80 then ofAscii c else (table.find? c.toNat).getD .other

end WordBreak

def pictographicRanges : List (Nat × Nat) := [
  (0x00A9, 0x00A9), (0x00AE, 0x00AE), (0x203C, 0x203C), (0x2049, 0x2049), (0x2122, 0x2122),
  (0x2139, 0x2139), (0x2194, 0x2199), (0x21A9, 0x21AA), (0x231A, 0x231B), (0x2328, 0x2328),
  (0x23CF, 0x23CF), (0x23E9, 0x23F3), (0x23F8, 0x23FA), (0x24C2, 0x24C2), (0x25AA, 0x25AB),
  (0x25B6, 0x25B6), (0x25C0, 0x25C0), (0x25FB, 0x25FE), (0x2600, 0x2604), (0x260E, 0x260E),
  (0x2611, 0x2611), (0x2614, 0x2615), (0x2618, 0x2618), (0x261D, 0x261D), (0x2620, 0x2620),
  (0x2622, 0x2623), (0x2626, 0x2626), (0x262A, 0x262A), (0x262E, 0x262F), (0x2638, 0x263A),
  (0x2640, 0x2640), (0x2642, 0x2642), (0x2648, 0x2653), (0x265F, 0x2660), (0x2663, 0x2663),
  (0x2665, 0x2666), (0x2668, 0x2668), (0x267B, 0x267B), (0x267E, 0x267F), (0x2692, 0x2697),
  (0x2699, 0x2699), (0x269B, 0x269C), (0x26A0, 0x26A1), (0x26A7, 0x26A7), (0x26AA, 0x26AB),
  (0x26B0, 0x26B1), (0x26BD, 0x26BE), (0x26C4, 0x26C5), (0x26C8, 0x26C8), (0x26CE, 0x26CF),
  (0x26D1, 0x26D1), (0x26D3, 0x26D4), (0x26E9, 0x26EA), (0x26F0, 0x26F5), (0x26F7, 0x26FA),
  (0x26FD, 0x26FD), (0x2702, 0x2702), (0x2705, 0x2705), (0x2708, 0x270D), (0x270F, 0x270F),
  (0x2712, 0x2712), (0x2714, 0x2714), (0x2716, 0x2716), (0x271D, 0x271D), (0x2721, 0x2721),
  (0x2728, 0x2728), (0x2733, 0x2734), (0x2744, 0x2744), (0x2747, 0x2747), (0x274C, 0x274C),
  (0x274E, 0x274E), (0x2753, 0x2755), (0x2757, 0x2757), (0x2763, 0x2764), (0x2795, 0x2797),
  (0x27A1, 0x27A1), (0x27B0, 0x27B0), (0x27BF, 0x27BF), (0x2934, 0x2935), (0x2B05, 0x2B07),
  (0x2B1B, 0x2B1C), (0x2B50, 0x2B50), (0x2B55, 0x2B55), (0x3030, 0x3030), (0x303D, 0x303D),
  (0x3297, 0x3297), (0x3299, 0x3299), (0x1F004, 0x1F004), (0x1F02C, 0x1F02F), (0x1F094, 0x1F09F),
  (0x1F0AF, 0x1F0B0), (0x1F0C0, 0x1F0C0), (0x1F0CF, 0x1F0D0), (0x1F0F6, 0x1F0FF),
  (0x1F170, 0x1F171), (0x1F17E, 0x1F17F), (0x1F18E, 0x1F18E), (0x1F191, 0x1F19A),
  (0x1F1AE, 0x1F1E5), (0x1F201, 0x1F20F), (0x1F21A, 0x1F21A), (0x1F22F, 0x1F22F),
  (0x1F232, 0x1F23A), (0x1F23C, 0x1F23F), (0x1F249, 0x1F25F), (0x1F266, 0x1F321),
  (0x1F324, 0x1F393), (0x1F396, 0x1F397), (0x1F399, 0x1F39B), (0x1F39E, 0x1F3F0),
  (0x1F3F3, 0x1F3F5), (0x1F3F7, 0x1F3FA), (0x1F400, 0x1F4FD), (0x1F4FF, 0x1F53D),
  (0x1F549, 0x1F54E), (0x1F550, 0x1F567), (0x1F56F, 0x1F570), (0x1F573, 0x1F57A),
  (0x1F587, 0x1F587), (0x1F58A, 0x1F58D), (0x1F590, 0x1F590), (0x1F595, 0x1F596),
  (0x1F5A4, 0x1F5A5), (0x1F5A8, 0x1F5A8), (0x1F5B1, 0x1F5B2), (0x1F5BC, 0x1F5BC),
  (0x1F5C2, 0x1F5C4), (0x1F5D1, 0x1F5D3), (0x1F5DC, 0x1F5DE), (0x1F5E1, 0x1F5E1),
  (0x1F5E3, 0x1F5E3), (0x1F5E8, 0x1F5E8), (0x1F5EF, 0x1F5EF), (0x1F5F3, 0x1F5F3),
  (0x1F5FA, 0x1F64F), (0x1F680, 0x1F6C5), (0x1F6CB, 0x1F6D2), (0x1F6D5, 0x1F6E5),
  (0x1F6E9, 0x1F6E9), (0x1F6EB, 0x1F6F0), (0x1F6F3, 0x1F6FF), (0x1F7DA, 0x1F7FF),
  (0x1F80C, 0x1F80F), (0x1F848, 0x1F84F), (0x1F85A, 0x1F85F), (0x1F888, 0x1F88F),
  (0x1F8AE, 0x1F8AF), (0x1F8BC, 0x1F8BF), (0x1F8C2, 0x1F8CF), (0x1F8D9, 0x1F8FF),
  (0x1F90C, 0x1F93A), (0x1F93C, 0x1F945), (0x1F947, 0x1F9FF), (0x1FA58, 0x1FA5F),
  (0x1FA6E, 0x1FAFF), (0x1FC00, 0x1FFFD)]

def pictographicSet : RangeSet := RangeSet.ofRanges pictographicRanges

def isPictographic (c : Char) : Bool :=
  if c.toNat < 0x80 then false else pictographicSet.contains c

end Relevance.Unicode
