/-!
Sets of characters beyond ASCII, by inclusive ranges of code points: letters, digits and marks, what
may start or continue an identifier, and what a quoted text shows as it is.

A word character is a letter, a digit or an underscore of any script; an identifier is narrower,
since some letters and most numbers of other scripts may not stand in one.
-/

namespace Blueprint.Text

/-- Inclusive ranges of code points. -/
abbrev Ranges := List (Nat × Nat)

/-- The cells of a row, at most `most` of `bits` each, in front of others. -/
def cellsOf (bits : Nat) : Nat → Nat → List Nat → List Nat
  | 0, _, others => others
  | most + 1, row, others =>
    if row == 0 then others else cellsOf bits most (row >>> bits) (row % (1 <<< bits) :: others)

/-- The cells of a table whose rows hold up to `most` cells of `bits` each. -/
def cells (bits most : Nat) (rows : List Nat) : List Nat :=
  rows.flatMap fun row => cellsOf bits most row []

/-- The ranges of a table: five digits for the first code point of a range and five for its last. -/
def Ranges.ofRows (rows : List Nat) : Ranges :=
  (cells 40 8 rows).map fun cell => (cell >>> 20, cell % 0x100000)

/-- Some range holds the character. -/
def Ranges.has (ranges : Ranges) (c : Char) : Bool :=
  ranges.any fun range => range.1 ≤ c.toNat && c.toNat ≤ range.2

theorem Ranges.has_iff {ranges : Ranges} {c : Char} :
    ranges.has c = true ↔ ∃ range ∈ ranges, range.1 ≤ c.toNat ∧ c.toNat ≤ range.2 := by
  simp [Ranges.has]

/-- Letters and numbers beyond ASCII: what counts as part of a word. -/
def wordRanges : Ranges := .ofRows [
  0x000aa000aa_000b2000b3_000b5000b5_000b9000ba_000bc000be_000c0000d6_000d8000f6_000f8002c1,
  0x002c6002d1_002e0002e4_002ec002ec_002ee002ee_0037000374_0037600377_0037a0037d_0037f0037f,
  0x0038600386_003880038a_0038c0038c_0038e003a1_003a3003f5_003f700481_0048a0052f_0053100556,
  0x0055900559_0056000588_005d0005ea_005ef005f2_006200064a_0066000669_0066e0066f_00671006d3,
  0x006d5006d5_006e5006e6_006ee006fc_006ff006ff_0071000710_007120072f_0074d007a5_007b1007b1,
  0x007c0007ea_007f4007f5_007fa007fa_0080000815_0081a0081a_0082400824_0082800828_0084000858,
  0x008600086a_0087000887_008890088e_008a0008c9_0090400939_0093d0093d_0095000950_0095800961,
  0x009660096f_0097100980_009850098c_0098f00990_00993009a8_009aa009b0_009b2009b2_009b6009b9,
  0x009bd009bd_009ce009ce_009dc009dd_009df009e1_009e6009f1_009f4009f9_009fc009fc_00a0500a0a,
  0x00a0f00a10_00a1300a28_00a2a00a30_00a3200a33_00a3500a36_00a3800a39_00a5900a5c_00a5e00a5e,
  0x00a6600a6f_00a7200a74_00a8500a8d_00a8f00a91_00a9300aa8_00aaa00ab0_00ab200ab3_00ab500ab9,
  0x00abd00abd_00ad000ad0_00ae000ae1_00ae600aef_00af900af9_00b0500b0c_00b0f00b10_00b1300b28,
  0x00b2a00b30_00b3200b33_00b3500b39_00b3d00b3d_00b5c00b5d_00b5f00b61_00b6600b6f_00b7100b77,
  0x00b8300b83_00b8500b8a_00b8e00b90_00b9200b95_00b9900b9a_00b9c00b9c_00b9e00b9f_00ba300ba4,
  0x00ba800baa_00bae00bb9_00bd000bd0_00be600bf2_00c0500c0c_00c0e00c10_00c1200c28_00c2a00c39,
  0x00c3d00c3d_00c5800c5a_00c5d00c5d_00c6000c61_00c6600c6f_00c7800c7e_00c8000c80_00c8500c8c,
  0x00c8e00c90_00c9200ca8_00caa00cb3_00cb500cb9_00cbd00cbd_00cdd00cde_00ce000ce1_00ce600cef,
  0x00cf100cf2_00d0400d0c_00d0e00d10_00d1200d3a_00d3d00d3d_00d4e00d4e_00d5400d56_00d5800d61,
  0x00d6600d78_00d7a00d7f_00d8500d96_00d9a00db1_00db300dbb_00dbd00dbd_00dc000dc6_00de600def,
  0x00e0100e30_00e3200e33_00e4000e46_00e5000e59_00e8100e82_00e8400e84_00e8600e8a_00e8c00ea3,
  0x00ea500ea5_00ea700eb0_00eb200eb3_00ebd00ebd_00ec000ec4_00ec600ec6_00ed000ed9_00edc00edf,
  0x00f0000f00_00f2000f33_00f4000f47_00f4900f6c_00f8800f8c_010000102a_0103f01049_0105001055,
  0x0105a0105d_0106101061_0106501066_0106e01070_0107501081_0108e0108e_0109001099_010a0010c5,
  0x010c7010c7_010cd010cd_010d0010fa_010fc01248_0124a0124d_0125001256_0125801258_0125a0125d,
  0x0126001288_0128a0128d_01290012b0_012b2012b5_012b8012be_012c0012c0_012c2012c5_012c8012d6,
  0x012d801310_0131201315_013180135a_013690137c_013800138f_013a0013f5_013f8013fd_014010166c,
  0x0166f0167f_016810169a_016a0016ea_016ee016f8_0170001711_0171f01731_0174001751_017600176c,
  0x0176e01770_01780017b3_017d7017d7_017dc017dc_017e0017e9_017f0017f9_0181001819_0182001878,
  0x0188001884_01887018a8_018aa018aa_018b0018f5_019000191e_019460196d_0197001974_01980019ab,
  0x019b0019c9_019d0019da_01a0001a16_01a2001a54_01a8001a89_01a9001a99_01aa701aa7_01b0501b33,
  0x01b4501b4c_01b5001b59_01b8301ba0_01bae01be5_01c0001c23_01c4001c49_01c4d01c7d_01c8001c88,
  0x01c9001cba_01cbd01cbf_01ce901cec_01cee01cf3_01cf501cf6_01cfa01cfa_01d0001dbf_01e0001f15,
  0x01f1801f1d_01f2001f45_01f4801f4d_01f5001f57_01f5901f59_01f5b01f5b_01f5d01f5d_01f5f01f7d,
  0x01f8001fb4_01fb601fbc_01fbe01fbe_01fc201fc4_01fc601fcc_01fd001fd3_01fd601fdb_01fe001fec,
  0x01ff201ff4_01ff601ffc_0207002071_0207402079_0207f02089_020900209c_0210202102_0210702107,
  0x0210a02113_0211502115_021190211d_0212402124_0212602126_0212802128_0212a0212d_0212f02139,
  0x0213c0213f_0214502149_0214e0214e_0215002189_024600249b_024ea024ff_0277602793_02c0002ce4,
  0x02ceb02cee_02cf202cf3_02cfd02cfd_02d0002d25_02d2702d27_02d2d02d2d_02d3002d67_02d6f02d6f,
  0x02d8002d96_02da002da6_02da802dae_02db002db6_02db802dbe_02dc002dc6_02dc802dce_02dd002dd6,
  0x02dd802dde_02e2f02e2f_0300503007_0302103029_0303103035_030380303c_0304103096_0309d0309f,
  0x030a1030fa_030fc030ff_031050312f_031310318e_0319203195_031a0031bf_031f0031ff_0322003229,
  0x032480324f_032510325f_0328003289_032b1032bf_0340004dbf_04e000a48c_0a4d00a4fd_0a5000a60c,
  0x0a6100a62b_0a6400a66e_0a67f0a69d_0a6a00a6ef_0a7170a71f_0a7220a788_0a78b0a7ca_0a7d00a7d1,
  0x0a7d30a7d3_0a7d50a7d9_0a7f20a801_0a8030a805_0a8070a80a_0a80c0a822_0a8300a835_0a8400a873,
  0x0a8820a8b3_0a8d00a8d9_0a8f20a8f7_0a8fb0a8fb_0a8fd0a8fe_0a9000a925_0a9300a946_0a9600a97c,
  0x0a9840a9b2_0a9cf0a9d9_0a9e00a9e4_0a9e60a9fe_0aa000aa28_0aa400aa42_0aa440aa4b_0aa500aa59,
  0x0aa600aa76_0aa7a0aa7a_0aa7e0aaaf_0aab10aab1_0aab50aab6_0aab90aabd_0aac00aac0_0aac20aac2,
  0x0aadb0aadd_0aae00aaea_0aaf20aaf4_0ab010ab06_0ab090ab0e_0ab110ab16_0ab200ab26_0ab280ab2e,
  0x0ab300ab5a_0ab5c0ab69_0ab700abe2_0abf00abf9_0ac000d7a3_0d7b00d7c6_0d7cb0d7fb_0f9000fa6d,
  0x0fa700fad9_0fb000fb06_0fb130fb17_0fb1d0fb1d_0fb1f0fb28_0fb2a0fb36_0fb380fb3c_0fb3e0fb3e,
  0x0fb400fb41_0fb430fb44_0fb460fbb1_0fbd30fd3d_0fd500fd8f_0fd920fdc7_0fdf00fdfb_0fe700fe74,
  0x0fe760fefc_0ff100ff19_0ff210ff3a_0ff410ff5a_0ff660ffbe_0ffc20ffc7_0ffca0ffcf_0ffd20ffd7,
  0x0ffda0ffdc_100001000b_1000d10026_100281003a_1003c1003d_1003f1004d_100501005d_10080100fa,
  0x1010710133_1014010178_1018a1018b_102801029c_102a0102d0_102e1102fb_1030010323_1032d1034a,
  0x1035010375_103801039d_103a0103c3_103c8103cf_103d1103d5_104001049d_104a0104a9_104b0104d3,
  0x104d8104fb_1050010527_1053010563_105701057a_1057c1058a_1058c10592_1059410595_10597105a1,
  0x105a3105b1_105b3105b9_105bb105bc_1060010736_1074010755_1076010767_1078010785_10787107b0,
  0x107b2107ba_1080010805_1080810808_1080a10835_1083710838_1083c1083c_1083f10855_1085810876,
  0x108791089e_108a7108af_108e0108f2_108f4108f5_108fb1091b_1092010939_10980109b7_109bc109cf,
  0x109d210a00_10a1010a13_10a1510a17_10a1910a35_10a4010a48_10a6010a7e_10a8010a9f_10ac010ac7,
  0x10ac910ae4_10aeb10aef_10b0010b35_10b4010b55_10b5810b72_10b7810b91_10ba910baf_10c0010c48,
  0x10c8010cb2_10cc010cf2_10cfa10d23_10d3010d39_10e6010e7e_10e8010ea9_10eb010eb1_10f0010f27,
  0x10f3010f45_10f5110f54_10f7010f81_10fb010fcb_10fe010ff6_1100311037_110521106f_1107111072,
  0x1107511075_11083110af_110d0110e8_110f0110f9_1110311126_111361113f_1114411144_1114711147,
  0x1115011172_1117611176_11183111b2_111c1111c4_111d0111da_111dc111dc_111e1111f4_1120011211,
  0x112131122b_1128011286_1128811288_1128a1128d_1128f1129d_1129f112a8_112b0112de_112f0112f9,
  0x113051130c_1130f11310_1131311328_1132a11330_1133211333_1133511339_1133d1133d_1135011350,
  0x1135d11361_1140011434_114471144a_1145011459_1145f11461_11480114af_114c4114c5_114c7114c7,
  0x114d0114d9_11580115ae_115d8115db_116001162f_1164411644_1165011659_11680116aa_116b8116b8,
  0x116c0116c9_117001171a_117301173b_1174011746_118001182b_118a0118f2_118ff11906_1190911909,
  0x1190c11913_1191511916_119181192f_1193f1193f_1194111941_1195011959_119a0119a7_119aa119d0,
  0x119e1119e1_119e3119e3_11a0011a00_11a0b11a32_11a3a11a3a_11a5011a50_11a5c11a89_11a9d11a9d,
  0x11ab011af8_11c0011c08_11c0a11c2e_11c4011c40_11c5011c6c_11c7211c8f_11d0011d06_11d0811d09,
  0x11d0b11d30_11d4611d46_11d5011d59_11d6011d65_11d6711d68_11d6a11d89_11d9811d98_11da011da9,
  0x11ee011ef2_11fb011fb0_11fc011fd4_1200012399_124001246e_1248012543_12f9012ff0_130001342e,
  0x1440014646_1680016a38_16a4016a5e_16a6016a69_16a7016abe_16ac016ac9_16ad016aed_16b0016b2f,
  0x16b4016b43_16b5016b59_16b5b16b61_16b6316b77_16b7d16b8f_16e4016e96_16f0016f4a_16f5016f50,
  0x16f9316f9f_16fe016fe1_16fe316fe3_17000187f7_1880018cd5_18d0018d08_1aff01aff3_1aff51affb,
  0x1affd1affe_1b0001b122_1b1501b152_1b1641b167_1b1701b2fb_1bc001bc6a_1bc701bc7c_1bc801bc88,
  0x1bc901bc99_1d2e01d2f3_1d3601d378_1d4001d454_1d4561d49c_1d49e1d49f_1d4a21d4a2_1d4a51d4a6,
  0x1d4a91d4ac_1d4ae1d4b9_1d4bb1d4bb_1d4bd1d4c3_1d4c51d505_1d5071d50a_1d50d1d514_1d5161d51c,
  0x1d51e1d539_1d53b1d53e_1d5401d544_1d5461d546_1d54a1d550_1d5521d6a5_1d6a81d6c0_1d6c21d6da,
  0x1d6dc1d6fa_1d6fc1d714_1d7161d734_1d7361d74e_1d7501d76e_1d7701d788_1d78a1d7a8_1d7aa1d7c2,
  0x1d7c41d7cb_1d7ce1d7ff_1df001df1e_1e1001e12c_1e1371e13d_1e1401e149_1e14e1e14e_1e2901e2ad,
  0x1e2c01e2eb_1e2f01e2f9_1e7e01e7e6_1e7e81e7eb_1e7ed1e7ee_1e7f01e7fe_1e8001e8c4_1e8c71e8cf,
  0x1e9001e943_1e94b1e94b_1e9501e959_1ec711ecab_1ecad1ecaf_1ecb11ecb4_1ed011ed2d_1ed2f1ed3d,
  0x1ee001ee03_1ee051ee1f_1ee211ee22_1ee241ee24_1ee271ee27_1ee291ee32_1ee341ee37_1ee391ee39,
  0x1ee3b1ee3b_1ee421ee42_1ee471ee47_1ee491ee49_1ee4b1ee4b_1ee4d1ee4f_1ee511ee52_1ee541ee54,
  0x1ee571ee57_1ee591ee59_1ee5b1ee5b_1ee5d1ee5d_1ee5f1ee5f_1ee611ee62_1ee641ee64_1ee671ee6a,
  0x1ee6c1ee72_1ee741ee77_1ee791ee7c_1ee7e1ee7e_1ee801ee89_1ee8b1ee9b_1eea11eea3_1eea51eea9,
  0x1eeab1eebb_1f1001f10c_1fbf01fbf9_200002a6df_2a7002b738_2b7402b81d_2b8202cea1_2ceb02ebe0,
  0x2f8002fa1d_300003134a]

/-- Decimal digits beyond ASCII; every range holds whole runs from zero to nine. -/
def decimalRanges : Ranges := .ofRows [
  0x0066000669_006f0006f9_007c0007c9_009660096f_009e6009ef_00a6600a6f_00ae600aef_00b6600b6f,
  0x00be600bef_00c6600c6f_00ce600cef_00d6600d6f_00de600def_00e5000e59_00ed000ed9_00f2000f29,
  0x0104001049_0109001099_017e0017e9_0181001819_019460194f_019d0019d9_01a8001a89_01a9001a99,
  0x01b5001b59_01bb001bb9_01c4001c49_01c5001c59_0a6200a629_0a8d00a8d9_0a9000a909_0a9d00a9d9,
  0x0a9f00a9f9_0aa500aa59_0abf00abf9_0ff100ff19_104a0104a9_10d3010d39_110661106f_110f0110f9,
  0x111361113f_111d0111d9_112f0112f9_1145011459_114d0114d9_1165011659_116c0116c9_1173011739,
  0x118e0118e9_1195011959_11c5011c59_11d5011d59_11da011da9_16a6016a69_16ac016ac9_16b5016b59,
  0x1d7ce1d7ff_1e1401e149_1e2f01e2f9_1e9501e959_1fbf01fbf9]

/-- Digits beyond ASCII that are not decimal: superscripts, circled digits and the like. -/
def digitRanges : Ranges := .ofRows [
  0x000b2000b3_000b9000b9_0136901371_019da019da_0207002070_0207402079_0208002089_0246002468,
  0x024740247c_0248802490_024ea024ea_024f5024fd_024ff024ff_027760277e_0278002788_0278a02792,
  0x10a4010a43_10e6010e68_110521105a_1f1001f10a]

/-- Characters beyond ASCII that may start an identifier. -/
def nameStartRanges : Ranges := .ofRows [
  0x000aa000aa_000b5000b5_000ba000ba_000c0000d6_000d8000f6_000f8002c1_002c6002d1_002e0002e4,
  0x002ec002ec_002ee002ee_0037000374_0037600377_0037b0037d_0037f0037f_0038600386_003880038a,
  0x0038c0038c_0038e003a1_003a3003f5_003f700481_0048a0052f_0053100556_0055900559_0056000588,
  0x005d0005ea_005ef005f2_006200064a_0066e0066f_00671006d3_006d5006d5_006e5006e6_006ee006ef,
  0x006fa006fc_006ff006ff_0071000710_007120072f_0074d007a5_007b1007b1_007ca007ea_007f4007f5,
  0x007fa007fa_0080000815_0081a0081a_0082400824_0082800828_0084000858_008600086a_0087000887,
  0x008890088e_008a0008c9_0090400939_0093d0093d_0095000950_0095800961_0097100980_009850098c,
  0x0098f00990_00993009a8_009aa009b0_009b2009b2_009b6009b9_009bd009bd_009ce009ce_009dc009dd,
  0x009df009e1_009f0009f1_009fc009fc_00a0500a0a_00a0f00a10_00a1300a28_00a2a00a30_00a3200a33,
  0x00a3500a36_00a3800a39_00a5900a5c_00a5e00a5e_00a7200a74_00a8500a8d_00a8f00a91_00a9300aa8,
  0x00aaa00ab0_00ab200ab3_00ab500ab9_00abd00abd_00ad000ad0_00ae000ae1_00af900af9_00b0500b0c,
  0x00b0f00b10_00b1300b28_00b2a00b30_00b3200b33_00b3500b39_00b3d00b3d_00b5c00b5d_00b5f00b61,
  0x00b7100b71_00b8300b83_00b8500b8a_00b8e00b90_00b9200b95_00b9900b9a_00b9c00b9c_00b9e00b9f,
  0x00ba300ba4_00ba800baa_00bae00bb9_00bd000bd0_00c0500c0c_00c0e00c10_00c1200c28_00c2a00c39,
  0x00c3d00c3d_00c5800c5a_00c5d00c5d_00c6000c61_00c8000c80_00c8500c8c_00c8e00c90_00c9200ca8,
  0x00caa00cb3_00cb500cb9_00cbd00cbd_00cdd00cde_00ce000ce1_00cf100cf2_00d0400d0c_00d0e00d10,
  0x00d1200d3a_00d3d00d3d_00d4e00d4e_00d5400d56_00d5f00d61_00d7a00d7f_00d8500d96_00d9a00db1,
  0x00db300dbb_00dbd00dbd_00dc000dc6_00e0100e30_00e3200e32_00e4000e46_00e8100e82_00e8400e84,
  0x00e8600e8a_00e8c00ea3_00ea500ea5_00ea700eb0_00eb200eb2_00ebd00ebd_00ec000ec4_00ec600ec6,
  0x00edc00edf_00f0000f00_00f4000f47_00f4900f6c_00f8800f8c_010000102a_0103f0103f_0105001055,
  0x0105a0105d_0106101061_0106501066_0106e01070_0107501081_0108e0108e_010a0010c5_010c7010c7,
  0x010cd010cd_010d0010fa_010fc01248_0124a0124d_0125001256_0125801258_0125a0125d_0126001288,
  0x0128a0128d_01290012b0_012b2012b5_012b8012be_012c0012c0_012c2012c5_012c8012d6_012d801310,
  0x0131201315_013180135a_013800138f_013a0013f5_013f8013fd_014010166c_0166f0167f_016810169a,
  0x016a0016ea_016ee016f8_0170001711_0171f01731_0174001751_017600176c_0176e01770_01780017b3,
  0x017d7017d7_017dc017dc_0182001878_01880018a8_018aa018aa_018b0018f5_019000191e_019500196d,
  0x0197001974_01980019ab_019b0019c9_01a0001a16_01a2001a54_01aa701aa7_01b0501b33_01b4501b4c,
  0x01b8301ba0_01bae01baf_01bba01be5_01c0001c23_01c4d01c4f_01c5a01c7d_01c8001c88_01c9001cba,
  0x01cbd01cbf_01ce901cec_01cee01cf3_01cf501cf6_01cfa01cfa_01d0001dbf_01e0001f15_01f1801f1d,
  0x01f2001f45_01f4801f4d_01f5001f57_01f5901f59_01f5b01f5b_01f5d01f5d_01f5f01f7d_01f8001fb4,
  0x01fb601fbc_01fbe01fbe_01fc201fc4_01fc601fcc_01fd001fd3_01fd601fdb_01fe001fec_01ff201ff4,
  0x01ff601ffc_0207102071_0207f0207f_020900209c_0210202102_0210702107_0210a02113_0211502115,
  0x021180211d_0212402124_0212602126_0212802128_0212a02139_0213c0213f_0214502149_0214e0214e,
  0x0216002188_02c0002ce4_02ceb02cee_02cf202cf3_02d0002d25_02d2702d27_02d2d02d2d_02d3002d67,
  0x02d6f02d6f_02d8002d96_02da002da6_02da802dae_02db002db6_02db802dbe_02dc002dc6_02dc802dce,
  0x02dd002dd6_02dd802dde_0300503007_0302103029_0303103035_030380303c_0304103096_0309d0309f,
  0x030a1030fa_030fc030ff_031050312f_031310318e_031a0031bf_031f0031ff_0340004dbf_04e000a48c,
  0x0a4d00a4fd_0a5000a60c_0a6100a61f_0a62a0a62b_0a6400a66e_0a67f0a69d_0a6a00a6ef_0a7170a71f,
  0x0a7220a788_0a78b0a7ca_0a7d00a7d1_0a7d30a7d3_0a7d50a7d9_0a7f20a801_0a8030a805_0a8070a80a,
  0x0a80c0a822_0a8400a873_0a8820a8b3_0a8f20a8f7_0a8fb0a8fb_0a8fd0a8fe_0a90a0a925_0a9300a946,
  0x0a9600a97c_0a9840a9b2_0a9cf0a9cf_0a9e00a9e4_0a9e60a9ef_0a9fa0a9fe_0aa000aa28_0aa400aa42,
  0x0aa440aa4b_0aa600aa76_0aa7a0aa7a_0aa7e0aaaf_0aab10aab1_0aab50aab6_0aab90aabd_0aac00aac0,
  0x0aac20aac2_0aadb0aadd_0aae00aaea_0aaf20aaf4_0ab010ab06_0ab090ab0e_0ab110ab16_0ab200ab26,
  0x0ab280ab2e_0ab300ab5a_0ab5c0ab69_0ab700abe2_0ac000d7a3_0d7b00d7c6_0d7cb0d7fb_0f9000fa6d,
  0x0fa700fad9_0fb000fb06_0fb130fb17_0fb1d0fb1d_0fb1f0fb28_0fb2a0fb36_0fb380fb3c_0fb3e0fb3e,
  0x0fb400fb41_0fb430fb44_0fb460fbb1_0fbd30fc5d_0fc640fd3d_0fd500fd8f_0fd920fdc7_0fdf00fdf9,
  0x0fe710fe71_0fe730fe73_0fe770fe77_0fe790fe79_0fe7b0fe7b_0fe7d0fe7d_0fe7f0fefc_0ff210ff3a,
  0x0ff410ff5a_0ff660ff9d_0ffa00ffbe_0ffc20ffc7_0ffca0ffcf_0ffd20ffd7_0ffda0ffdc_100001000b,
  0x1000d10026_100281003a_1003c1003d_1003f1004d_100501005d_10080100fa_1014010174_102801029c,
  0x102a0102d0_103001031f_1032d1034a_1035010375_103801039d_103a0103c3_103c8103cf_103d1103d5,
  0x104001049d_104b0104d3_104d8104fb_1050010527_1053010563_105701057a_1057c1058a_1058c10592,
  0x1059410595_10597105a1_105a3105b1_105b3105b9_105bb105bc_1060010736_1074010755_1076010767,
  0x1078010785_10787107b0_107b2107ba_1080010805_1080810808_1080a10835_1083710838_1083c1083c,
  0x1083f10855_1086010876_108801089e_108e0108f2_108f4108f5_1090010915_1092010939_10980109b7,
  0x109be109bf_10a0010a00_10a1010a13_10a1510a17_10a1910a35_10a6010a7c_10a8010a9c_10ac010ac7,
  0x10ac910ae4_10b0010b35_10b4010b55_10b6010b72_10b8010b91_10c0010c48_10c8010cb2_10cc010cf2,
  0x10d0010d23_10e8010ea9_10eb010eb1_10f0010f1c_10f2710f27_10f3010f45_10f7010f81_10fb010fc4,
  0x10fe010ff6_1100311037_1107111072_1107511075_11083110af_110d0110e8_1110311126_1114411144,
  0x1114711147_1115011172_1117611176_11183111b2_111c1111c4_111da111da_111dc111dc_1120011211,
  0x112131122b_1128011286_1128811288_1128a1128d_1128f1129d_1129f112a8_112b0112de_113051130c,
  0x1130f11310_1131311328_1132a11330_1133211333_1133511339_1133d1133d_1135011350_1135d11361,
  0x1140011434_114471144a_1145f11461_11480114af_114c4114c5_114c7114c7_11580115ae_115d8115db,
  0x116001162f_1164411644_11680116aa_116b8116b8_117001171a_1174011746_118001182b_118a0118df,
  0x118ff11906_1190911909_1190c11913_1191511916_119181192f_1193f1193f_1194111941_119a0119a7,
  0x119aa119d0_119e1119e1_119e3119e3_11a0011a00_11a0b11a32_11a3a11a3a_11a5011a50_11a5c11a89,
  0x11a9d11a9d_11ab011af8_11c0011c08_11c0a11c2e_11c4011c40_11c7211c8f_11d0011d06_11d0811d09,
  0x11d0b11d30_11d4611d46_11d6011d65_11d6711d68_11d6a11d89_11d9811d98_11ee011ef2_11fb011fb0,
  0x1200012399_124001246e_1248012543_12f9012ff0_130001342e_1440014646_1680016a38_16a4016a5e,
  0x16a7016abe_16ad016aed_16b0016b2f_16b4016b43_16b6316b77_16b7d16b8f_16e4016e7f_16f0016f4a,
  0x16f5016f50_16f9316f9f_16fe016fe1_16fe316fe3_17000187f7_1880018cd5_18d0018d08_1aff01aff3,
  0x1aff51affb_1affd1affe_1b0001b122_1b1501b152_1b1641b167_1b1701b2fb_1bc001bc6a_1bc701bc7c,
  0x1bc801bc88_1bc901bc99_1d4001d454_1d4561d49c_1d49e1d49f_1d4a21d4a2_1d4a51d4a6_1d4a91d4ac,
  0x1d4ae1d4b9_1d4bb1d4bb_1d4bd1d4c3_1d4c51d505_1d5071d50a_1d50d1d514_1d5161d51c_1d51e1d539,
  0x1d53b1d53e_1d5401d544_1d5461d546_1d54a1d550_1d5521d6a5_1d6a81d6c0_1d6c21d6da_1d6dc1d6fa,
  0x1d6fc1d714_1d7161d734_1d7361d74e_1d7501d76e_1d7701d788_1d78a1d7a8_1d7aa1d7c2_1d7c41d7cb,
  0x1df001df1e_1e1001e12c_1e1371e13d_1e14e1e14e_1e2901e2ad_1e2c01e2eb_1e7e01e7e6_1e7e81e7eb,
  0x1e7ed1e7ee_1e7f01e7fe_1e8001e8c4_1e9001e943_1e94b1e94b_1ee001ee03_1ee051ee1f_1ee211ee22,
  0x1ee241ee24_1ee271ee27_1ee291ee32_1ee341ee37_1ee391ee39_1ee3b1ee3b_1ee421ee42_1ee471ee47,
  0x1ee491ee49_1ee4b1ee4b_1ee4d1ee4f_1ee511ee52_1ee541ee54_1ee571ee57_1ee591ee59_1ee5b1ee5b,
  0x1ee5d1ee5d_1ee5f1ee5f_1ee611ee62_1ee641ee64_1ee671ee6a_1ee6c1ee72_1ee741ee77_1ee791ee7c,
  0x1ee7e1ee7e_1ee801ee89_1ee8b1ee9b_1eea11eea3_1eea51eea9_1eeab1eebb_200002a6df_2a7002b738,
  0x2b7402b81d_2b8202cea1_2ceb02ebe0_2f8002fa1d_300003134a]

/-- Characters beyond ASCII that may continue an identifier but not start one. -/
def nameExtraRanges : Ranges := .ofRows [
  0x000b7000b7_003000036f_0038700387_0048300487_00591005bd_005bf005bf_005c1005c2_005c4005c5,
  0x005c7005c7_006100061a_0064b00669_0067000670_006d6006dc_006df006e4_006e7006e8_006ea006ed,
  0x006f0006f9_0071100711_007300074a_007a6007b0_007c0007c9_007eb007f3_007fd007fd_0081600819,
  0x0081b00823_0082500827_008290082d_008590085b_008980089f_008ca008e1_008e300903_0093a0093c,
  0x0093e0094f_0095100957_0096200963_009660096f_0098100983_009bc009bc_009be009c4_009c7009c8,
  0x009cb009cd_009d7009d7_009e2009e3_009e6009ef_009fe009fe_00a0100a03_00a3c00a3c_00a3e00a42,
  0x00a4700a48_00a4b00a4d_00a5100a51_00a6600a71_00a7500a75_00a8100a83_00abc00abc_00abe00ac5,
  0x00ac700ac9_00acb00acd_00ae200ae3_00ae600aef_00afa00aff_00b0100b03_00b3c00b3c_00b3e00b44,
  0x00b4700b48_00b4b00b4d_00b5500b57_00b6200b63_00b6600b6f_00b8200b82_00bbe00bc2_00bc600bc8,
  0x00bca00bcd_00bd700bd7_00be600bef_00c0000c04_00c3c00c3c_00c3e00c44_00c4600c48_00c4a00c4d,
  0x00c5500c56_00c6200c63_00c6600c6f_00c8100c83_00cbc00cbc_00cbe00cc4_00cc600cc8_00cca00ccd,
  0x00cd500cd6_00ce200ce3_00ce600cef_00d0000d03_00d3b00d3c_00d3e00d44_00d4600d48_00d4a00d4d,
  0x00d5700d57_00d6200d63_00d6600d6f_00d8100d83_00dca00dca_00dcf00dd4_00dd600dd6_00dd800ddf,
  0x00de600def_00df200df3_00e3100e31_00e3300e3a_00e4700e4e_00e5000e59_00eb100eb1_00eb300ebc,
  0x00ec800ecd_00ed000ed9_00f1800f19_00f2000f29_00f3500f35_00f3700f37_00f3900f39_00f3e00f3f,
  0x00f7100f84_00f8600f87_00f8d00f97_00f9900fbc_00fc600fc6_0102b0103e_0104001049_0105601059,
  0x0105e01060_0106201064_010670106d_0107101074_010820108d_0108f0109d_0135d0135f_0136901371,
  0x0171201715_0173201734_0175201753_0177201773_017b4017d3_017dd017dd_017e0017e9_0180b0180d,
  0x0180f01819_018a9018a9_019200192b_019300193b_019460194f_019d0019da_01a1701a1b_01a5501a5e,
  0x01a6001a7c_01a7f01a89_01a9001a99_01ab001abd_01abf01ace_01b0001b04_01b3401b44_01b5001b59,
  0x01b6b01b73_01b8001b82_01ba101bad_01bb001bb9_01be601bf3_01c2401c37_01c4001c49_01c5001c59,
  0x01cd001cd2_01cd401ce8_01ced01ced_01cf401cf4_01cf701cf9_01dc001dff_0203f02040_0205402054,
  0x020d0020dc_020e1020e1_020e5020f0_02cef02cf1_02d7f02d7f_02de002dff_0302a0302f_030990309a,
  0x0a6200a629_0a66f0a66f_0a6740a67d_0a69e0a69f_0a6f00a6f1_0a8020a802_0a8060a806_0a80b0a80b,
  0x0a8230a827_0a82c0a82c_0a8800a881_0a8b40a8c5_0a8d00a8d9_0a8e00a8f1_0a8ff0a909_0a9260a92d,
  0x0a9470a953_0a9800a983_0a9b30a9c0_0a9d00a9d9_0a9e50a9e5_0a9f00a9f9_0aa290aa36_0aa430aa43,
  0x0aa4c0aa4d_0aa500aa59_0aa7b0aa7d_0aab00aab0_0aab20aab4_0aab70aab8_0aabe0aabf_0aac10aac1,
  0x0aaeb0aaef_0aaf50aaf6_0abe30abea_0abec0abed_0abf00abf9_0fb1e0fb1e_0fe000fe0f_0fe200fe2f,
  0x0fe330fe34_0fe4d0fe4f_0ff100ff19_0ff3f0ff3f_0ff9e0ff9f_101fd101fd_102e0102e0_103761037a,
  0x104a0104a9_10a0110a03_10a0510a06_10a0c10a0f_10a3810a3a_10a3f10a3f_10ae510ae6_10d2410d27,
  0x10d3010d39_10eab10eac_10f4610f50_10f8210f85_1100011002_1103811046_1106611070_1107311074,
  0x1107f11082_110b0110ba_110c2110c2_110f0110f9_1110011102_1112711134_111361113f_1114511146,
  0x1117311173_1118011182_111b3111c0_111c9111cc_111ce111d9_1122c11237_1123e1123e_112df112ea,
  0x112f0112f9_1130011303_1133b1133c_1133e11344_1134711348_1134b1134d_1135711357_1136211363,
  0x113661136c_1137011374_1143511446_1145011459_1145e1145e_114b0114c3_114d0114d9_115af115b5,
  0x115b8115c0_115dc115dd_1163011640_1165011659_116ab116b7_116c0116c9_1171d1172b_1173011739,
  0x1182c1183a_118e0118e9_1193011935_1193711938_1193b1193e_1194011940_1194211943_1195011959,
  0x119d1119d7_119da119e0_119e4119e4_11a0111a0a_11a3311a39_11a3b11a3e_11a4711a47_11a5111a5b,
  0x11a8a11a99_11c2f11c36_11c3811c3f_11c5011c59_11c9211ca7_11ca911cb6_11d3111d36_11d3a11d3a,
  0x11d3c11d3d_11d3f11d45_11d4711d47_11d5011d59_11d8a11d8e_11d9011d91_11d9311d97_11da011da9,
  0x11ef311ef6_16a6016a69_16ac016ac9_16af016af4_16b3016b36_16b5016b59_16f4f16f4f_16f5116f87,
  0x16f8f16f92_16fe416fe4_16ff016ff1_1bc9d1bc9e_1cf001cf2d_1cf301cf46_1d1651d169_1d16d1d172,
  0x1d17b1d182_1d1851d18b_1d1aa1d1ad_1d2421d244_1d7ce1d7ff_1da001da36_1da3b1da6c_1da751da75,
  0x1da841da84_1da9b1da9f_1daa11daaf_1e0001e006_1e0081e018_1e01b1e021_1e0231e024_1e0261e02a,
  0x1e1301e136_1e1401e149_1e2ae1e2ae_1e2ec1e2f9_1e8d01e8d6_1e9441e94a_1e9501e959_1fbf01fbf9,
  0xe0100e01ef]

/-- Characters beyond ASCII that are neither controls, formats, separators, private nor
unassigned. -/
def printableRanges : Ranges := .ofRows [
  0x000a1000ac_000ae00377_0037a0037f_003840038a_0038c0038c_0038e003a1_003a30052f_0053100556,
  0x005590058a_0058d0058f_00591005c7_005d0005ea_005ef005f4_006060061b_0061d006dc_006de0070d,
  0x007100074a_0074d007b1_007c0007fa_007fd0082d_008300083e_008400085b_0085e0085e_008600086a,
  0x008700088e_00898008e1_008e300983_009850098c_0098f00990_00993009a8_009aa009b0_009b2009b2,
  0x009b6009b9_009bc009c4_009c7009c8_009cb009ce_009d7009d7_009dc009dd_009df009e3_009e6009fe,
  0x00a0100a03_00a0500a0a_00a0f00a10_00a1300a28_00a2a00a30_00a3200a33_00a3500a36_00a3800a39,
  0x00a3c00a3c_00a3e00a42_00a4700a48_00a4b00a4d_00a5100a51_00a5900a5c_00a5e00a5e_00a6600a76,
  0x00a8100a83_00a8500a8d_00a8f00a91_00a9300aa8_00aaa00ab0_00ab200ab3_00ab500ab9_00abc00ac5,
  0x00ac700ac9_00acb00acd_00ad000ad0_00ae000ae3_00ae600af1_00af900aff_00b0100b03_00b0500b0c,
  0x00b0f00b10_00b1300b28_00b2a00b30_00b3200b33_00b3500b39_00b3c00b44_00b4700b48_00b4b00b4d,
  0x00b5500b57_00b5c00b5d_00b5f00b63_00b6600b77_00b8200b83_00b8500b8a_00b8e00b90_00b9200b95,
  0x00b9900b9a_00b9c00b9c_00b9e00b9f_00ba300ba4_00ba800baa_00bae00bb9_00bbe00bc2_00bc600bc8,
  0x00bca00bcd_00bd000bd0_00bd700bd7_00be600bfa_00c0000c0c_00c0e00c10_00c1200c28_00c2a00c39,
  0x00c3c00c44_00c4600c48_00c4a00c4d_00c5500c56_00c5800c5a_00c5d00c5d_00c6000c63_00c6600c6f,
  0x00c7700c8c_00c8e00c90_00c9200ca8_00caa00cb3_00cb500cb9_00cbc00cc4_00cc600cc8_00cca00ccd,
  0x00cd500cd6_00cdd00cde_00ce000ce3_00ce600cef_00cf100cf2_00d0000d0c_00d0e00d10_00d1200d44,
  0x00d4600d48_00d4a00d4f_00d5400d63_00d6600d7f_00d8100d83_00d8500d96_00d9a00db1_00db300dbb,
  0x00dbd00dbd_00dc000dc6_00dca00dca_00dcf00dd4_00dd600dd6_00dd800ddf_00de600def_00df200df4,
  0x00e0100e3a_00e3f00e5b_00e8100e82_00e8400e84_00e8600e8a_00e8c00ea3_00ea500ea5_00ea700ebd,
  0x00ec000ec4_00ec600ec6_00ec800ecd_00ed000ed9_00edc00edf_00f0000f47_00f4900f6c_00f7100f97,
  0x00f9900fbc_00fbe00fcc_00fce00fda_01000010c5_010c7010c7_010cd010cd_010d001248_0124a0124d,
  0x0125001256_0125801258_0125a0125d_0126001288_0128a0128d_01290012b0_012b2012b5_012b8012be,
  0x012c0012c0_012c2012c5_012c8012d6_012d801310_0131201315_013180135a_0135d0137c_0138001399,
  0x013a0013f5_013f8013fd_014000167f_016810169c_016a0016f8_0170001715_0171f01736_0174001753,
  0x017600176c_0176e01770_0177201773_01780017dd_017e0017e9_017f0017f9_018000180d_0180f01819,
  0x0182001878_01880018aa_018b0018f5_019000191e_019200192b_019300193b_0194001940_019440196d,
  0x0197001974_01980019ab_019b0019c9_019d0019da_019de01a1b_01a1e01a5e_01a6001a7c_01a7f01a89,
  0x01a9001a99_01aa001aad_01ab001ace_01b0001b4c_01b5001b7e_01b8001bf3_01bfc01c37_01c3b01c49,
  0x01c4d01c88_01c9001cba_01cbd01cc7_01cd001cfa_01d0001f15_01f1801f1d_01f2001f45_01f4801f4d,
  0x01f5001f57_01f5901f59_01f5b01f5b_01f5d01f5d_01f5f01f7d_01f8001fb4_01fb601fc4_01fc601fd3,
  0x01fd601fdb_01fdd01fef_01ff201ff4_01ff601ffe_0201002027_020300205e_0207002071_020740208e,
  0x020900209c_020a0020c0_020d0020f0_021000218b_0219002426_024400244a_0246002b73_02b7602b95,
  0x02b9702cf3_02cf902d25_02d2702d27_02d2d02d2d_02d3002d67_02d6f02d70_02d7f02d96_02da002da6,
  0x02da802dae_02db002db6_02db802dbe_02dc002dc6_02dc802dce_02dd002dd6_02dd802dde_02de002e5d,
  0x02e8002e99_02e9b02ef3_02f0002fd5_02ff002ffb_030010303f_0304103096_03099030ff_031050312f,
  0x031310318e_03190031e3_031f00321e_032200a48c_0a4900a4c6_0a4d00a62b_0a6400a6f7_0a7000a7ca,
  0x0a7d00a7d1_0a7d30a7d3_0a7d50a7d9_0a7f20a82c_0a8300a839_0a8400a877_0a8800a8c5_0a8ce0a8d9,
  0x0a8e00a953_0a95f0a97c_0a9800a9cd_0a9cf0a9d9_0a9de0a9fe_0aa000aa36_0aa400aa4d_0aa500aa59,
  0x0aa5c0aac2_0aadb0aaf6_0ab010ab06_0ab090ab0e_0ab110ab16_0ab200ab26_0ab280ab2e_0ab300ab6b,
  0x0ab700abed_0abf00abf9_0ac000d7a3_0d7b00d7c6_0d7cb0d7fb_0f9000fa6d_0fa700fad9_0fb000fb06,
  0x0fb130fb17_0fb1d0fb36_0fb380fb3c_0fb3e0fb3e_0fb400fb41_0fb430fb44_0fb460fbc2_0fbd30fd8f,
  0x0fd920fdc7_0fdcf0fdcf_0fdf00fe19_0fe200fe52_0fe540fe66_0fe680fe6b_0fe700fe74_0fe760fefc,
  0x0ff010ffbe_0ffc20ffc7_0ffca0ffcf_0ffd20ffd7_0ffda0ffdc_0ffe00ffe6_0ffe80ffee_0fffc0fffd,
  0x100001000b_1000d10026_100281003a_1003c1003d_1003f1004d_100501005d_10080100fa_1010010102,
  0x1010710133_101371018e_101901019c_101a0101a0_101d0101fd_102801029c_102a0102d0_102e0102fb,
  0x1030010323_1032d1034a_103501037a_103801039d_1039f103c3_103c8103d5_104001049d_104a0104a9,
  0x104b0104d3_104d8104fb_1050010527_1053010563_1056f1057a_1057c1058a_1058c10592_1059410595,
  0x10597105a1_105a3105b1_105b3105b9_105bb105bc_1060010736_1074010755_1076010767_1078010785,
  0x10787107b0_107b2107ba_1080010805_1080810808_1080a10835_1083710838_1083c1083c_1083f10855,
  0x108571089e_108a7108af_108e0108f2_108f4108f5_108fb1091b_1091f10939_1093f1093f_10980109b7,
  0x109bc109cf_109d210a03_10a0510a06_10a0c10a13_10a1510a17_10a1910a35_10a3810a3a_10a3f10a48,
  0x10a5010a58_10a6010a9f_10ac010ae6_10aeb10af6_10b0010b35_10b3910b55_10b5810b72_10b7810b91,
  0x10b9910b9c_10ba910baf_10c0010c48_10c8010cb2_10cc010cf2_10cfa10d27_10d3010d39_10e6010e7e,
  0x10e8010ea9_10eab10ead_10eb010eb1_10f0010f27_10f3010f59_10f7010f89_10fb010fcb_10fe010ff6,
  0x110001104d_1105211075_1107f110bc_110be110c2_110d0110e8_110f0110f9_1110011134_1113611147,
  0x1115011176_11180111df_111e1111f4_1120011211_112131123e_1128011286_1128811288_1128a1128d,
  0x1128f1129d_1129f112a9_112b0112ea_112f0112f9_1130011303_113051130c_1130f11310_1131311328,
  0x1132a11330_1133211333_1133511339_1133b11344_1134711348_1134b1134d_1135011350_1135711357,
  0x1135d11363_113661136c_1137011374_114001145b_1145d11461_11480114c7_114d0114d9_11580115b5,
  0x115b8115dd_1160011644_1165011659_116601166c_11680116b9_116c0116c9_117001171a_1171d1172b,
  0x1173011746_118001183b_118a0118f2_118ff11906_1190911909_1190c11913_1191511916_1191811935,
  0x1193711938_1193b11946_1195011959_119a0119a7_119aa119d7_119da119e4_11a0011a47_11a5011aa2,
  0x11ab011af8_11c0011c08_11c0a11c36_11c3811c45_11c5011c6c_11c7011c8f_11c9211ca7_11ca911cb6,
  0x11d0011d06_11d0811d09_11d0b11d36_11d3a11d3a_11d3c11d3d_11d3f11d47_11d5011d59_11d6011d65,
  0x11d6711d68_11d6a11d8e_11d9011d91_11d9311d98_11da011da9_11ee011ef8_11fb011fb0_11fc011ff1,
  0x11fff12399_124001246e_1247012474_1248012543_12f9012ff2_130001342e_1440014646_1680016a38,
  0x16a4016a5e_16a6016a69_16a6e16abe_16ac016ac9_16ad016aed_16af016af5_16b0016b45_16b5016b59,
  0x16b5b16b61_16b6316b77_16b7d16b8f_16e4016e9a_16f0016f4a_16f4f16f87_16f8f16f9f_16fe016fe4,
  0x16ff016ff1_17000187f7_1880018cd5_18d0018d08_1aff01aff3_1aff51affb_1affd1affe_1b0001b122,
  0x1b1501b152_1b1641b167_1b1701b2fb_1bc001bc6a_1bc701bc7c_1bc801bc88_1bc901bc99_1bc9c1bc9f,
  0x1cf001cf2d_1cf301cf46_1cf501cfc3_1d0001d0f5_1d1001d126_1d1291d172_1d17b1d1ea_1d2001d245,
  0x1d2e01d2f3_1d3001d356_1d3601d378_1d4001d454_1d4561d49c_1d49e1d49f_1d4a21d4a2_1d4a51d4a6,
  0x1d4a91d4ac_1d4ae1d4b9_1d4bb1d4bb_1d4bd1d4c3_1d4c51d505_1d5071d50a_1d50d1d514_1d5161d51c,
  0x1d51e1d539_1d53b1d53e_1d5401d544_1d5461d546_1d54a1d550_1d5521d6a5_1d6a81d7cb_1d7ce1da8b,
  0x1da9b1da9f_1daa11daaf_1df001df1e_1e0001e006_1e0081e018_1e01b1e021_1e0231e024_1e0261e02a,
  0x1e1001e12c_1e1301e13d_1e1401e149_1e14e1e14f_1e2901e2ae_1e2c01e2f9_1e2ff1e2ff_1e7e01e7e6,
  0x1e7e81e7eb_1e7ed1e7ee_1e7f01e7fe_1e8001e8c4_1e8c71e8d6_1e9001e94b_1e9501e959_1e95e1e95f,
  0x1ec711ecb4_1ed011ed3d_1ee001ee03_1ee051ee1f_1ee211ee22_1ee241ee24_1ee271ee27_1ee291ee32,
  0x1ee341ee37_1ee391ee39_1ee3b1ee3b_1ee421ee42_1ee471ee47_1ee491ee49_1ee4b1ee4b_1ee4d1ee4f,
  0x1ee511ee52_1ee541ee54_1ee571ee57_1ee591ee59_1ee5b1ee5b_1ee5d1ee5d_1ee5f1ee5f_1ee611ee62,
  0x1ee641ee64_1ee671ee6a_1ee6c1ee72_1ee741ee77_1ee791ee7c_1ee7e1ee7e_1ee801ee89_1ee8b1ee9b,
  0x1eea11eea3_1eea51eea9_1eeab1eebb_1eef01eef1_1f0001f02b_1f0301f093_1f0a01f0ae_1f0b11f0bf,
  0x1f0c11f0cf_1f0d11f0f5_1f1001f1ad_1f1e61f202_1f2101f23b_1f2401f248_1f2501f251_1f2601f265,
  0x1f3001f6d7_1f6dd1f6ec_1f6f01f6fc_1f7001f773_1f7801f7d8_1f7e01f7eb_1f7f01f7f0_1f8001f80b,
  0x1f8101f847_1f8501f859_1f8601f887_1f8901f8ad_1f8b01f8b1_1f9001fa53_1fa601fa6d_1fa701fa74,
  0x1fa781fa7c_1fa801fa86_1fa901faac_1fab01faba_1fac01fac5_1fad01fad9_1fae01fae7_1faf01faf6,
  0x1fb001fb92_1fb941fbca_1fbf01fbf9_200002a6df_2a7002b738_2b7402b81d_2b8202cea1_2ceb02ebe0,
  0x2f8002fa1d_300003134a_e0100e01ef]

/-- A letter, a number or an underscore. -/
def isWord (c : Char) : Bool :=
  if c.toNat < 0x80 then c.isAlphanum || c == '_' else wordRanges.has c

/-- A decimal digit of any script. -/
def isDecimal (c : Char) : Bool :=
  if c.toNat < 0x80 then c.isDigit else decimalRanges.has c

/-- A decimal digit, or a digit that takes no part in positional numbers. -/
def isAnyDigit (c : Char) : Bool :=
  isDecimal c || (0x80 ≤ c.toNat && digitRanges.has c)

/-- The value of a decimal digit: its distance from the zero that starts its run of ten. -/
def decimalValue (c : Char) : Nat :=
  if c.toNat < 0x80 then c.toNat - '0'.toNat
  else match decimalRanges.find? fun range => range.1 ≤ c.toNat && c.toNat ≤ range.2 with
    | some range => (c.toNat - range.1) % 10
    | none => 0

/-- May start an identifier. -/
def isNameStart (c : Char) : Bool :=
  if c.toNat < 0x80 then c.isAlpha || c == '_' else nameStartRanges.has c

/-- May continue an identifier. -/
def isNamePart (c : Char) : Bool :=
  if c.toNat < 0x80 then c.isAlphanum || c == '_'
  else nameStartRanges.has c || nameExtraRanges.has c

/-- An identifier: a start character and any number of parts. -/
def isIdentifier : List Char → Bool
  | [] => false
  | c :: rest => isNameStart c && rest.all isNamePart

end Blueprint.Text
