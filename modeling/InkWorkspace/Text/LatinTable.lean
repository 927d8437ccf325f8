/- Latin letters with diacritics, strokes, hooks and the like, and the base letters that stand for
   them. Small letters have a base letter far more often than capital ones, and ligatures have
   none. -/
namespace InkWorkspace.Text

/-- Letters of the first Latin blocks in the order of their code points, each with its base. -/
def latinLetters : List (Nat × Char) :=
  [(0xC0, 'A'), (0xC1, 'A'), (0xC2, 'A'), (0xC3, 'A'), (0xC4, 'A'), (0xC5, 'A'), (0xC7, 'C'),
   (0xC8, 'E'), (0xC9, 'E'), (0xCA, 'E'), (0xCB, 'E'), (0xCC, 'I'), (0xCD, 'I'), (0xCE, 'I'),
   (0xCF, 'I'), (0xD1, 'N'), (0xD2, 'O'), (0xD3, 'O'), (0xD4, 'O'), (0xD5, 'O'), (0xD6, 'O'),
   (0xD8, 'O'), (0xD9, 'U'), (0xDA, 'U'), (0xDB, 'U'), (0xDC, 'U'), (0xDD, 'Y'), (0xDF, 's'),
   (0xE0, 'a'), (0xE1, 'a'), (0xE2, 'a'), (0xE3, 'a'), (0xE4, 'a'), (0xE5, 'a'), (0xE7, 'c'),
   (0xE8, 'e'), (0xE9, 'e'), (0xEA, 'e'), (0xEB, 'e'), (0xEC, 'i'), (0xED, 'i'), (0xEE, 'i'),
   (0xEF, 'i'), (0xF1, 'n'), (0xF2, 'o'), (0xF3, 'o'), (0xF4, 'o'), (0xF5, 'o'), (0xF6, 'o'),
   (0xF8, 'o'), (0xF9, 'u'), (0xFA, 'u'), (0xFB, 'u'), (0xFC, 'u'), (0xFD, 'y'), (0xFF, 'y'),
   (0x101, 'a'), (0x103, 'a'), (0x105, 'a'), (0x107, 'c'), (0x109, 'c'), (0x10B, 'c'),
   (0x10D, 'c'), (0x10F, 'd'), (0x111, 'd'), (0x113, 'e'), (0x115, 'e'), (0x117, 'e'),
   (0x119, 'e'), (0x11B, 'e'), (0x11D, 'g'), (0x11F, 'g'), (0x121, 'g'), (0x123, 'g'),
   (0x125, 'h'), (0x127, 'h'), (0x129, 'i'), (0x12B, 'i'), (0x12D, 'i'), (0x12F, 'i'),
   (0x130, 'I'), (0x131, 'i'), (0x135, 'j'), (0x137, 'k'), (0x13A, 'l'), (0x13C, 'l'),
   (0x13E, 'l'), (0x140, 'l'), (0x142, 'l'), (0x144, 'n'), (0x146, 'n'), (0x148, 'n'),
   (0x14D, 'o'), (0x14F, 'o'), (0x151, 'o'), (0x155, 'r'), (0x157, 'r'), (0x159, 'r'),
   (0x15B, 's'), (0x15D, 's'), (0x15F, 's'), (0x161, 's'), (0x163, 't'), (0x165, 't'),
   (0x167, 't'), (0x169, 'u'), (0x16B, 'u'), (0x16D, 'u'), (0x16F, 'u'), (0x171, 'u'),
   (0x173, 'u'), (0x175, 'w'), (0x177, 'y'), (0x178, 'Y'), (0x17A, 'z'), (0x17C, 'z'),
   (0x17E, 'z'), (0x17F, 's'), (0x180, 'b'), (0x181, 'B'), (0x183, 'b'), (0x186, 'O'),
   (0x188, 'c'), (0x189, 'D'), (0x18A, 'D'), (0x18C, 'd'), (0x18E, 'E'), (0x190, 'E'),
   (0x192, 'f'), (0x193, 'G'), (0x197, 'I'), (0x199, 'k'), (0x19A, 'l'), (0x19C, 'M'),
   (0x19D, 'N'), (0x19E, 'n'), (0x19F, 'O'), (0x1A1, 'o'), (0x1A5, 'p'), (0x1AB, 't'),
   (0x1AD, 't'), (0x1AE, 'T'), (0x1B0, 'u'), (0x1B2, 'V'), (0x1B4, 'y'), (0x1B6, 'z'),
   (0x1CE, 'a'), (0x1D0, 'i'), (0x1D2, 'o'), (0x1D4, 'u'), (0x1DD, 'e'), (0x1E5, 'g'),
   (0x1E7, 'g'), (0x1E9, 'k'), (0x1EB, 'o'), (0x1F0, 'j'), (0x1F5, 'g'), (0x1F9, 'n'),
   (0x201, 'a'), (0x203, 'a'), (0x205, 'e'), (0x207, 'e'), (0x209, 'i'), (0x20B, 'i'),
   (0x20D, 'o'), (0x20F, 'o'), (0x211, 'r'), (0x213, 'r'), (0x215, 'u'), (0x217, 'u'),
   (0x219, 's'), (0x21B, 't'), (0x21F, 'h'), (0x220, 'N'), (0x221, 'd'), (0x225, 'z'),
   (0x227, 'a'), (0x229, 'e'), (0x22F, 'o'), (0x233, 'y'), (0x234, 'l'), (0x235, 'n'),
   (0x236, 't'), (0x237, 'j'), (0x23A, 'A'), (0x23B, 'C'), (0x23C, 'c'), (0x23D, 'L'),
   (0x23E, 'T'), (0x23F, 's'), (0x240, 'z'), (0x243, 'B'), (0x244, 'U'), (0x245, 'V'),
   (0x246, 'E'), (0x247, 'e'), (0x248, 'J'), (0x249, 'j'), (0x24A, 'Q'), (0x24B, 'q'),
   (0x24C, 'R'), (0x24D, 'r'), (0x24E, 'Y'), (0x24F, 'y'), (0x250, 'a'), (0x251, 'a'),
   (0x253, 'b'), (0x254, 'o'), (0x255, 'c'), (0x256, 'd'), (0x257, 'd'), (0x258, 'e'),
   (0x25B, 'e'), (0x25C, 'e'), (0x25D, 'e'), (0x25E, 'e'), (0x25F, 'j'), (0x260, 'g'),
   (0x261, 'g'), (0x262, 'G'), (0x265, 'h'), (0x266, 'h'), (0x268, 'i'), (0x26A, 'I'),
   (0x26B, 'l'), (0x26C, 'l'), (0x26D, 'l'), (0x26F, 'm'), (0x270, 'm'), (0x271, 'm'),
   (0x272, 'n'), (0x273, 'n'), (0x274, 'N'), (0x275, 'o'), (0x279, 'r'), (0x27A, 'r'),
   (0x27B, 'r'), (0x27C, 'r'), (0x27D, 'r'), (0x27E, 'r'), (0x27F, 'r'), (0x280, 'R'),
   (0x281, 'R'), (0x282, 's'), (0x287, 't'), (0x288, 't'), (0x289, 'u'), (0x28B, 'v'),
   (0x28C, 'v'), (0x28D, 'w'), (0x28E, 'y'), (0x28F, 'Y'), (0x290, 'z'), (0x291, 'z'),
   (0x297, 'c'), (0x299, 'B'), (0x29A, 'e'), (0x29B, 'G'), (0x29C, 'H'), (0x29D, 'j'),
   (0x29E, 'k'), (0x29F, 'L'), (0x2A0, 'q'), (0x2AE, 'h'), (0x363, 'a'), (0x364, 'e'),
   (0x365, 'i'), (0x366, 'o'), (0x367, 'u'), (0x368, 'c'), (0x369, 'd'), (0x36A, 'h'),
   (0x36B, 'm'), (0x36C, 'r'), (0x36D, 't'), (0x36E, 'v'), (0x36F, 'x')]

/-- Two later groups of letters: small capitals and letters with marks below, then raised and
    lowered ones. A letter has the base of the one at the same place of `latinLetters`, whatever
    its own shape, so `ᴄ` and `ᴅ` stand for `A`. -/
def laterLetters : List (List Nat) :=
  [[0x1D00, 0x1D03, 0x1D04, 0x1D05, 0x1D07, 0x1D08, 0x1D09, 0x1D0A, 0x1D0B, 0x1D0C, 0x1D0D,
    0x1D0E, 0x1D0F, 0x1D10, 0x1D11, 0x1D12, 0x1D13, 0x1D16, 0x1D17, 0x1D18, 0x1D19, 0x1D1A,
    0x1D1B, 0x1D1C, 0x1D1D, 0x1D1E, 0x1D1F, 0x1D20, 0x1D21, 0x1D22, 0x1D62, 0x1D63, 0x1D64,
    0x1D65, 0x1E01, 0x1E03, 0x1E05, 0x1E07, 0x1E0B, 0x1E0D, 0x1E0F, 0x1E11, 0x1E13, 0x1E19,
    0x1E1B, 0x1E1F, 0x1E21, 0x1E23, 0x1E25, 0x1E27, 0x1E29, 0x1E2B, 0x1E2D, 0x1E31, 0x1E33,
    0x1E35, 0x1E37, 0x1E3D, 0x1E3F, 0x1E41, 0x1E43, 0x1E45, 0x1E47, 0x1E49, 0x1E4B, 0x1E55,
    0x1E57, 0x1E5B, 0x1E5F, 0x1E61, 0x1E63, 0x1E6B, 0x1E6D, 0x1E6F, 0x1E71, 0x1E73, 0x1E75,
    0x1E77, 0x1E7F, 0x1E83, 0x1E85, 0x1E87, 0x1E89, 0x1E8B, 0x1E8D, 0x1E8F, 0x1E91, 0x1E95,
    0x1E96, 0x1E97, 0x1E98, 0x1E99, 0x1E9A, 0x1E9B, 0x1EA1, 0x1EA3, 0x1EB9, 0x1EBD, 0x1EC9,
    0x1ECB, 0x1ECD, 0x1ECF, 0x1EE5, 0x1EE7],
   [0x2071, 0x2095, 0x2096, 0x2097, 0x2098, 0x2099, 0x209A, 0x209B, 0x209C, 0x2184]]

end InkWorkspace.Text
