/-!
# Decompositions of Greek letters

Letters with accents and breathings, each with its full canonical
decomposition.
-/

namespace Keyspace
namespace Decomposition

/-- Decompositions from U+0340 up to U+03FF. -/
def greekBasic : List (Nat × List Nat) := [
    (0x0340, [0x0300]), (0x0341, [0x0301]), (0x0343, [0x0313]), (0x0344, [0x0308, 0x0301]),
    (0x0374, [0x02B9]), (0x037E, [0x003B]), (0x0385, [0x00A8, 0x0301]),
    (0x0386, [0x0391, 0x0301]), (0x0387, [0x00B7]), (0x0388, [0x0395, 0x0301]),
    (0x0389, [0x0397, 0x0301]), (0x038A, [0x0399, 0x0301]), (0x038C, [0x039F, 0x0301]),
    (0x038E, [0x03A5, 0x0301]), (0x038F, [0x03A9, 0x0301]),
    (0x0390, [0x03B9, 0x0308, 0x0301]), (0x03AA, [0x0399, 0x0308]),
    (0x03AB, [0x03A5, 0x0308]), (0x03AC, [0x03B1, 0x0301]), (0x03AD, [0x03B5, 0x0301]),
    (0x03AE, [0x03B7, 0x0301]), (0x03AF, [0x03B9, 0x0301]),
    (0x03B0, [0x03C5, 0x0308, 0x0301]), (0x03CA, [0x03B9, 0x0308]),
    (0x03CB, [0x03C5, 0x0308]), (0x03CC, [0x03BF, 0x0301]), (0x03CD, [0x03C5, 0x0301]),
    (0x03CE, [0x03C9, 0x0301]), (0x03D3, [0x03D2, 0x0301]), (0x03D4, [0x03D2, 0x0308])]

/-- Decompositions from U+1F00 up to U+1FFF. -/
def greekExtended : List (Nat × List Nat) := [
    (0x1F00, [0x03B1, 0x0313]), (0x1F01, [0x03B1, 0x0314]),
    (0x1F02, [0x03B1, 0x0313, 0x0300]), (0x1F03, [0x03B1, 0x0314, 0x0300]),
    (0x1F04, [0x03B1, 0x0313, 0x0301]), (0x1F05, [0x03B1, 0x0314, 0x0301]),
    (0x1F06, [0x03B1, 0x0313, 0x0342]), (0x1F07, [0x03B1, 0x0314, 0x0342]),
    (0x1F08, [0x0391, 0x0313]), (0x1F09, [0x0391, 0x0314]),
    (0x1F0A, [0x0391, 0x0313, 0x0300]), (0x1F0B, [0x0391, 0x0314, 0x0300]),
    (0x1F0C, [0x0391, 0x0313, 0x0301]), (0x1F0D, [0x0391, 0x0314, 0x0301]),
    (0x1F0E, [0x0391, 0x0313, 0x0342]), (0x1F0F, [0x0391, 0x0314, 0x0342]),
    (0x1F10, [0x03B5, 0x0313]), (0x1F11, [0x03B5, 0x0314]),
    (0x1F12, [0x03B5, 0x0313, 0x0300]), (0x1F13, [0x03B5, 0x0314, 0x0300]),
    (0x1F14, [0x03B5, 0x0313, 0x0301]), (0x1F15, [0x03B5, 0x0314, 0x0301]),
    (0x1F18, [0x0395, 0x0313]), (0x1F19, [0x0395, 0x0314]),
    (0x1F1A, [0x0395, 0x0313, 0x0300]), (0x1F1B, [0x0395, 0x0314, 0x0300]),
    (0x1F1C, [0x0395, 0x0313, 0x0301]), (0x1F1D, [0x0395, 0x0314, 0x0301]),
    (0x1F20, [0x03B7, 0x0313]), (0x1F21, [0x03B7, 0x0314]),
    (0x1F22, [0x03B7, 0x0313, 0x0300]), (0x1F23, [0x03B7, 0x0314, 0x0300]),
    (0x1F24, [0x03B7, 0x0313, 0x0301]), (0x1F25, [0x03B7, 0x0314, 0x0301]),
    (0x1F26, [0x03B7, 0x0313, 0x0342]), (0x1F27, [0x03B7, 0x0314, 0x0342]),
    (0x1F28, [0x0397, 0x0313]), (0x1F29, [0x0397, 0x0314]),
    (0x1F2A, [0x0397, 0x0313, 0x0300]), (0x1F2B, [0x0397, 0x0314, 0x0300]),
    (0x1F2C, [0x0397, 0x0313, 0x0301]), (0x1F2D, [0x0397, 0x0314, 0x0301]),
    (0x1F2E, [0x0397, 0x0313, 0x0342]), (0x1F2F, [0x0397, 0x0314, 0x0342]),
    (0x1F30, [0x03B9, 0x0313]), (0x1F31, [0x03B9, 0x0314]),
    (0x1F32, [0x03B9, 0x0313, 0x0300]), (0x1F33, [0x03B9, 0x0314, 0x0300]),
    (0x1F34, [0x03B9, 0x0313, 0x0301]), (0x1F35, [0x03B9, 0x0314, 0x0301]),
    (0x1F36, [0x03B9, 0x0313, 0x0342]), (0x1F37, [0x03B9, 0x0314, 0x0342]),
    (0x1F38, [0x0399, 0x0313]), (0x1F39, [0x0399, 0x0314]),
    (0x1F3A, [0x0399, 0x0313, 0x0300]), (0x1F3B, [0x0399, 0x0314, 0x0300]),
    (0x1F3C, [0x0399, 0x0313, 0x0301]), (0x1F3D, [0x0399, 0x0314, 0x0301]),
    (0x1F3E, [0x0399, 0x0313, 0x0342]), (0x1F3F, [0x0399, 0x0314, 0x0342]),
    (0x1F40, [0x03BF, 0x0313]), (0x1F41, [0x03BF, 0x0314]),
    (0x1F42, [0x03BF, 0x0313, 0x0300]), (0x1F43, [0x03BF, 0x0314, 0x0300]),
    (0x1F44, [0x03BF, 0x0313, 0x0301]), (0x1F45, [0x03BF, 0x0314, 0x0301]),
    (0x1F48, [0x039F, 0x0313]), (0x1F49, [0x039F, 0x0314]),
    (0x1F4A, [0x039F, 0x0313, 0x0300]), (0x1F4B, [0x039F, 0x0314, 0x0300]),
    (0x1F4C, [0x039F, 0x0313, 0x0301]), (0x1F4D, [0x039F, 0x0314, 0x0301]),
    (0x1F50, [0x03C5, 0x0313]), (0x1F51, [0x03C5, 0x0314]),
    (0x1F52, [0x03C5, 0x0313, 0x0300]), (0x1F53, [0x03C5, 0x0314, 0x0300]),
    (0x1F54, [0x03C5, 0x0313, 0x0301]), (0x1F55, [0x03C5, 0x0314, 0x0301]),
    (0x1F56, [0x03C5, 0x0313, 0x0342]), (0x1F57, [0x03C5, 0x0314, 0x0342]),
    (0x1F59, [0x03A5, 0x0314]), (0x1F5B, [0x03A5, 0x0314, 0x0300]),
    (0x1F5D, [0x03A5, 0x0314, 0x0301]), (0x1F5F, [0x03A5, 0x0314, 0x0342]),
    (0x1F60, [0x03C9, 0x0313]), (0x1F61, [0x03C9, 0x0314]),
    (0x1F62, [0x03C9, 0x0313, 0x0300]), (0x1F63, [0x03C9, 0x0314, 0x0300]),
    (0x1F64, [0x03C9, 0x0313, 0x0301]), (0x1F65, [0x03C9, 0x0314, 0x0301]),
    (0x1F66, [0x03C9, 0x0313, 0x0342]), (0x1F67, [0x03C9, 0x0314, 0x0342]),
    (0x1F68, [0x03A9, 0x0313]), (0x1F69, [0x03A9, 0x0314]),
    (0x1F6A, [0x03A9, 0x0313, 0x0300]), (0x1F6B, [0x03A9, 0x0314, 0x0300]),
    (0x1F6C, [0x03A9, 0x0313, 0x0301]), (0x1F6D, [0x03A9, 0x0314, 0x0301]),
    (0x1F6E, [0x03A9, 0x0313, 0x0342]), (0x1F6F, [0x03A9, 0x0314, 0x0342]),
    (0x1F70, [0x03B1, 0x0300]), (0x1F71, [0x03B1, 0x0301]), (0x1F72, [0x03B5, 0x0300]),
    (0x1F73, [0x03B5, 0x0301]), (0x1F74, [0x03B7, 0x0300]), (0x1F75, [0x03B7, 0x0301]),
    (0x1F76, [0x03B9, 0x0300]), (0x1F77, [0x03B9, 0x0301]), (0x1F78, [0x03BF, 0x0300]),
    (0x1F79, [0x03BF, 0x0301]), (0x1F7A, [0x03C5, 0x0300]), (0x1F7B, [0x03C5, 0x0301]),
    (0x1F7C, [0x03C9, 0x0300]), (0x1F7D, [0x03C9, 0x0301]),
    (0x1F80, [0x03B1, 0x0313, 0x0345]), (0x1F81, [0x03B1, 0x0314, 0x0345]),
    (0x1F82, [0x03B1, 0x0313, 0x0300, 0x0345]), (0x1F83, [0x03B1, 0x0314, 0x0300, 0x0345]),
    (0x1F84, [0x03B1, 0x0313, 0x0301, 0x0345]), (0x1F85, [0x03B1, 0x0314, 0x0301, 0x0345]),
    (0x1F86, [0x03B1, 0x0313, 0x0342, 0x0345]), (0x1F87, [0x03B1, 0x0314, 0x0342, 0x0345]),
    (0x1F88, [0x0391, 0x0313, 0x0345]), (0x1F89, [0x0391, 0x0314, 0x0345]),
    (0x1F8A, [0x0391, 0x0313, 0x0300, 0x0345]), (0x1F8B, [0x0391, 0x0314, 0x0300, 0x0345]),
    (0x1F8C, [0x0391, 0x0313, 0x0301, 0x0345]), (0x1F8D, [0x0391, 0x0314, 0x0301, 0x0345]),
    (0x1F8E, [0x0391, 0x0313, 0x0342, 0x0345]), (0x1F8F, [0x0391, 0x0314, 0x0342, 0x0345]),
    (0x1F90, [0x03B7, 0x0313, 0x0345]), (0x1F91, [0x03B7, 0x0314, 0x0345]),
    (0x1F92, [0x03B7, 0x0313, 0x0300, 0x0345]), (0x1F93, [0x03B7, 0x0314, 0x0300, 0x0345]),
    (0x1F94, [0x03B7, 0x0313, 0x0301, 0x0345]), (0x1F95, [0x03B7, 0x0314, 0x0301, 0x0345]),
    (0x1F96, [0x03B7, 0x0313, 0x0342, 0x0345]), (0x1F97, [0x03B7, 0x0314, 0x0342, 0x0345]),
    (0x1F98, [0x0397, 0x0313, 0x0345]), (0x1F99, [0x0397, 0x0314, 0x0345]),
    (0x1F9A, [0x0397, 0x0313, 0x0300, 0x0345]), (0x1F9B, [0x0397, 0x0314, 0x0300, 0x0345]),
    (0x1F9C, [0x0397, 0x0313, 0x0301, 0x0345]), (0x1F9D, [0x0397, 0x0314, 0x0301, 0x0345]),
    (0x1F9E, [0x0397, 0x0313, 0x0342, 0x0345]), (0x1F9F, [0x0397, 0x0314, 0x0342, 0x0345]),
    (0x1FA0, [0x03C9, 0x0313, 0x0345]), (0x1FA1, [0x03C9, 0x0314, 0x0345]),
    (0x1FA2, [0x03C9, 0x0313, 0x0300, 0x0345]), (0x1FA3, [0x03C9, 0x0314, 0x0300, 0x0345]),
    (0x1FA4, [0x03C9, 0x0313, 0x0301, 0x0345]), (0x1FA5, [0x03C9, 0x0314, 0x0301, 0x0345]),
    (0x1FA6, [0x03C9, 0x0313, 0x0342, 0x0345]), (0x1FA7, [0x03C9, 0x0314, 0x0342, 0x0345]),
    (0x1FA8, [0x03A9, 0x0313, 0x0345]), (0x1FA9, [0x03A9, 0x0314, 0x0345]),
    (0x1FAA, [0x03A9, 0x0313, 0x0300, 0x0345]), (0x1FAB, [0x03A9, 0x0314, 0x0300, 0x0345]),
    (0x1FAC, [0x03A9, 0x0313, 0x0301, 0x0345]), (0x1FAD, [0x03A9, 0x0314, 0x0301, 0x0345]),
    (0x1FAE, [0x03A9, 0x0313, 0x0342, 0x0345]), (0x1FAF, [0x03A9, 0x0314, 0x0342, 0x0345]),
    (0x1FB0, [0x03B1, 0x0306]), (0x1FB1, [0x03B1, 0x0304]),
    (0x1FB2, [0x03B1, 0x0300, 0x0345]), (0x1FB3, [0x03B1, 0x0345]),
    (0x1FB4, [0x03B1, 0x0301, 0x0345]), (0x1FB6, [0x03B1, 0x0342]),
    (0x1FB7, [0x03B1, 0x0342, 0x0345]), (0x1FB8, [0x0391, 0x0306]),
    (0x1FB9, [0x0391, 0x0304]), (0x1FBA, [0x0391, 0x0300]), (0x1FBB, [0x0391, 0x0301]),
    (0x1FBC, [0x0391, 0x0345]), (0x1FBE, [0x03B9]), (0x1FC1, [0x00A8, 0x0342]),
    (0x1FC2, [0x03B7, 0x0300, 0x0345]), (0x1FC3, [0x03B7, 0x0345]),
    (0x1FC4, [0x03B7, 0x0301, 0x0345]), (0x1FC6, [0x03B7, 0x0342]),
    (0x1FC7, [0x03B7, 0x0342, 0x0345]), (0x1FC8, [0x0395, 0x0300]),
    (0x1FC9, [0x0395, 0x0301]), (0x1FCA, [0x0397, 0x0300]), (0x1FCB, [0x0397, 0x0301]),
    (0x1FCC, [0x0397, 0x0345]), (0x1FCD, [0x1FBF, 0x0300]), (0x1FCE, [0x1FBF, 0x0301]),
    (0x1FCF, [0x1FBF, 0x0342]), (0x1FD0, [0x03B9, 0x0306]), (0x1FD1, [0x03B9, 0x0304]),
    (0x1FD2, [0x03B9, 0x0308, 0x0300]), (0x1FD3, [0x03B9, 0x0308, 0x0301]),
    (0x1FD6, [0x03B9, 0x0342]), (0x1FD7, [0x03B9, 0x0308, 0x0342]),
    (0x1FD8, [0x0399, 0x0306]), (0x1FD9, [0x0399, 0x0304]), (0x1FDA, [0x0399, 0x0300]),
    (0x1FDB, [0x0399, 0x0301]), (0x1FDD, [0x1FFE, 0x0300]), (0x1FDE, [0x1FFE, 0x0301]),
    (0x1FDF, [0x1FFE, 0x0342]), (0x1FE0, [0x03C5, 0x0306]), (0x1FE1, [0x03C5, 0x0304]),
    (0x1FE2, [0x03C5, 0x0308, 0x0300]), (0x1FE3, [0x03C5, 0x0308, 0x0301]),
    (0x1FE4, [0x03C1, 0x0313]), (0x1FE5, [0x03C1, 0x0314]), (0x1FE6, [0x03C5, 0x0342]),
    (0x1FE7, [0x03C5, 0x0308, 0x0342]), (0x1FE8, [0x03A5, 0x0306]),
    (0x1FE9, [0x03A5, 0x0304]), (0x1FEA, [0x03A5, 0x0300]), (0x1FEB, [0x03A5, 0x0301]),
    (0x1FEC, [0x03A1, 0x0314]), (0x1FED, [0x00A8, 0x0300]), (0x1FEE, [0x00A8, 0x0301]),
    (0x1FEF, [0x0060]), (0x1FF2, [0x03C9, 0x0300, 0x0345]), (0x1FF3, [0x03C9, 0x0345]),
    (0x1FF4, [0x03C9, 0x0301, 0x0345]), (0x1FF6, [0x03C9, 0x0342]),
    (0x1FF7, [0x03C9, 0x0342, 0x0345]), (0x1FF8, [0x039F, 0x0300]),
    (0x1FF9, [0x039F, 0x0301]), (0x1FFA, [0x03A9, 0x0300]), (0x1FFB, [0x03A9, 0x0301]),
    (0x1FFC, [0x03A9, 0x0345]), (0x1FFD, [0x00B4])]

end Decomposition
end Keyspace
