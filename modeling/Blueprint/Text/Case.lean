import Blueprint.Text.CharTables

/-!
Upper and lower case. A character may map to several; the Greek capital sigma becomes the final
form at the end of a word. The mappings beyond ASCII are tables of runs.
-/

namespace Blueprint.Text

/-- Every `step`-th code point from `first` to `last` maps to the code point as far from `image`
as it is from `first`. -/
structure CaseRun where
  first : Nat
  last : Nat
  step : Nat
  image : Nat

/-- The runs of a table: five digits for the first code point, five for the last, one for the step
and five for the image. -/
def CaseRun.ofRows (rows : List Nat) : List CaseRun :=
  (cells 64 5 rows).map fun cell =>
    ⟨cell >>> 44, (cell >>> 24) % 0x100000, (cell >>> 20) % 0x10, cell % 0x100000⟩

/-- The code points of a table with their images of up to three, five digits for each. -/
def wideOfRows (rows : List Nat) : List (Nat × List Nat) :=
  (cells 80 4 rows).map fun cell =>
    (cell >>> 60,
      [(cell >>> 40) % 0x100000, (cell >>> 20) % 0x100000, cell % 0x100000].filter (· != 0))

/-- Lower-case forms of one character. -/
def lowerRuns : List CaseRun := CaseRun.ofRows [
  0x000c0000d61000e0_000d8000de1000f8_001000012e200101_0013200136200133_001390014720013a,
  0x0014a0017620014b_00178001781000ff_001790017d20017a_0018100181100253_0018200184200183,
  0x0018600186100254_0018700187100188_001890018a100256_0018b0018b10018c_0018e0018e1001dd,
  0x0018f0018f100259_001900019010025b_0019100191100192_0019300193100260_0019400194100263,
  0x0019600196100269_0019700197100268_0019800198100199_0019c0019c10026f_0019d0019d100272,
  0x0019f0019f100275_001a0001a42001a1_001a6001a6100280_001a7001a71001a8_001a9001a9100283,
  0x001ac001ac1001ad_001ae001ae100288_001af001af1001b0_001b1001b210028a_001b3001b52001b4,
  0x001b7001b7100292_001b8001b81001b9_001bc001bc1001bd_001c4001c41001c6_001c5001c51001c6,
  0x001c7001c71001c9_001c8001c81001c9_001ca001ca1001cc_001cb001db2001cc_001de001ee2001df,
  0x001f1001f11001f3_001f2001f42001f3_001f6001f6100195_001f7001f71001bf_001f80021e2001f9,
  0x002200022010019e_0022200232200223_0023a0023a102c65_0023b0023b10023c_0023d0023d10019a,
  0x0023e0023e102c66_0024100241100242_0024300243100180_0024400244100289_002450024510028c,
  0x002460024e200247_0037000372200371_0037600376100377_0037f0037f1003f3_00386003861003ac,
  0x003880038a1003ad_0038c0038c1003cc_0038e0038f1003cd_00391003a11003b1_003a3003ab1003c3,
  0x003cf003cf1003d7_003d8003ee2003d9_003f4003f41003b8_003f7003f71003f8_003f9003f91003f2,
  0x003fa003fa1003fb_003fd003ff10037b_004000040f100450_004100042f100430_0046000480200461,
  0x0048a004be20048b_004c0004c01004cf_004c1004cd2004c2_004d00052e2004d1_0053100556100561,
  0x010a0010c5102d00_010c7010c7102d27_010cd010cd102d2d_013a0013ef10ab70_013f0013f51013f8,
  0x01c9001cba1010d0_01cbd01cbf1010fd_01e0001e94201e01_01e9e01e9e1000df_01ea001efe201ea1,
  0x01f0801f0f101f00_01f1801f1d101f10_01f2801f2f101f20_01f3801f3f101f30_01f4801f4d101f40,
  0x01f5901f5f201f51_01f6801f6f101f60_01f8801f8f101f80_01f9801f9f101f90_01fa801faf101fa0,
  0x01fb801fb9101fb0_01fba01fbb101f70_01fbc01fbc101fb3_01fc801fcb101f72_01fcc01fcc101fc3,
  0x01fd801fd9101fd0_01fda01fdb101f76_01fe801fe9101fe0_01fea01feb101f7a_01fec01fec101fe5,
  0x01ff801ff9101f78_01ffa01ffb101f7c_01ffc01ffc101ff3_02126021261003c9_0212a0212a10006b,
  0x0212b0212b1000e5_021320213210214e_021600216f102170_0218302183102184_024b6024cf1024d0,
  0x02c0002c2f102c30_02c6002c60102c61_02c6202c6210026b_02c6302c63101d7d_02c6402c6410027d,
  0x02c6702c6b202c68_02c6d02c6d100251_02c6e02c6e100271_02c6f02c6f100250_02c7002c70100252,
  0x02c7202c72102c73_02c7502c75102c76_02c7e02c7f10023f_02c8002ce2202c81_02ceb02ced202cec,
  0x02cf202cf2102cf3_0a6400a66c20a641_0a6800a69a20a681_0a7220a72e20a723_0a7320a76e20a733,
  0x0a7790a77b20a77a_0a77d0a77d101d79_0a77e0a78620a77f_0a78b0a78b10a78c_0a78d0a78d100265,
  0x0a7900a79220a791_0a7960a7a820a797_0a7aa0a7aa100266_0a7ab0a7ab10025c_0a7ac0a7ac100261,
  0x0a7ad0a7ad10026c_0a7ae0a7ae10026a_0a7b00a7b010029e_0a7b10a7b1100287_0a7b20a7b210029d,
  0x0a7b30a7b310ab53_0a7b40a7c220a7b5_0a7c40a7c410a794_0a7c50a7c5100282_0a7c60a7c6101d8e,
  0x0a7c70a7c920a7c8_0a7d00a7d010a7d1_0a7d60a7d820a7d7_0a7f50a7f510a7f6_0ff210ff3a10ff41,
  0x1040010427110428_104b0104d31104d8_105701057a110597_1057c1058a1105a3_1058c105921105b3,
  0x10594105951105bb_10c8010cb2110cc0_118a0118bf1118c0_16e4016e5f116e60_1e9001e92111e922]

/-- Lower-case forms of several characters. -/
def lowerWide : List (Nat × List Nat) := [
  (0x130, [0x69, 0x307])]

/-- Upper-case forms of one character. -/
def upperRuns : List CaseRun := CaseRun.ofRows [
  0x000b5000b510039c_000e0000f61000c0_000f8000fe1000d8_000ff000ff100178_001010012f200100,
  0x0013100131100049_0013300137200132_0013a00148200139_0014b0017720014a_0017a0017e200179,
  0x0017f0017f100053_0018000180100243_0018300185200182_0018800188100187_0018c0018c10018b,
  0x0019200192100191_00195001951001f6_0019900199100198_0019a0019a10023d_0019e0019e100220,
  0x001a1001a52001a0_001a8001a81001a7_001ad001ad1001ac_001b0001b01001af_001b4001b62001b3,
  0x001b9001b91001b8_001bd001bd1001bc_001bf001bf1001f7_001c5001c51001c4_001c6001c61001c4,
  0x001c8001c81001c7_001c9001c91001c7_001cb001cb1001ca_001cc001cc1001ca_001ce001dc2001cd,
  0x001dd001dd10018e_001df001ef2001de_001f2001f21001f1_001f3001f31001f1_001f5001f51001f4,
  0x001f90021f2001f8_0022300233200222_0023c0023c10023b_0023f00240102c7e_0024200242100241,
  0x002470024f200246_0025000250102c6f_0025100251102c6d_0025200252102c70_0025300253100181,
  0x0025400254100186_0025600257100189_002590025910018f_0025b0025b100190_0025c0025c10a7ab,
  0x0026000260100193_002610026110a7ac_0026300263100194_002650026510a78d_002660026610a7aa,
  0x0026800268100197_0026900269100196_0026a0026a10a7ae_0026b0026b102c62_0026c0026c10a7ad,
  0x0026f0026f10019c_0027100271102c6e_002720027210019d_002750027510019f_0027d0027d102c64,
  0x00280002801001a6_002820028210a7c5_00283002831001a9_002870028710a7b1_00288002881001ae,
  0x0028900289100244_0028a0028b1001b1_0028c0028c100245_00292002921001b7_0029d0029d10a7b2,
  0x0029e0029e10a7b0_0034500345100399_0037100373200370_0037700377100376_0037b0037d1003fd,
  0x003ac003ac100386_003ad003af100388_003b1003c1100391_003c2003c21003a3_003c3003cb1003a3,
  0x003cc003cc10038c_003cd003ce10038e_003d0003d0100392_003d1003d1100398_003d5003d51003a6,
  0x003d6003d61003a0_003d7003d71003cf_003d9003ef2003d8_003f0003f010039a_003f1003f11003a1,
  0x003f2003f21003f9_003f3003f310037f_003f5003f5100395_003f8003f81003f7_003fb003fb1003fa,
  0x004300044f100410_004500045f100400_0046100481200460_0048b004bf20048a_004c2004ce2004c1,
  0x004cf004cf1004c0_004d10052f2004d0_0056100586100531_010d0010fa101c90_010fd010ff101cbd,
  0x013f8013fd1013f0_01c8001c80100412_01c8101c81100414_01c8201c8210041e_01c8301c84100421,
  0x01c8501c85100422_01c8601c8610042a_01c8701c87100462_01c8801c8810a64a_01d7901d7910a77d,
  0x01d7d01d7d102c63_01d8e01d8e10a7c6_01e0101e95201e00_01e9b01e9b101e60_01ea101eff201ea0,
  0x01f0001f07101f08_01f1001f15101f18_01f2001f27101f28_01f3001f37101f38_01f4001f45101f48,
  0x01f5101f57201f59_01f6001f67101f68_01f7001f71101fba_01f7201f75101fc8_01f7601f77101fda,
  0x01f7801f79101ff8_01f7a01f7b101fea_01f7c01f7d101ffa_01fb001fb1101fb8_01fbe01fbe100399,
  0x01fd001fd1101fd8_01fe001fe1101fe8_01fe501fe5101fec_0214e0214e102132_021700217f102160,
  0x0218402184102183_024d0024e91024b6_02c3002c5f102c00_02c6102c61102c60_02c6502c6510023a,
  0x02c6602c6610023e_02c6802c6c202c67_02c7302c73102c72_02c7602c76102c75_02c8102ce3202c80,
  0x02cec02cee202ceb_02cf302cf3102cf2_02d0002d251010a0_02d2702d271010c7_02d2d02d2d1010cd,
  0x0a6410a66d20a640_0a6810a69b20a680_0a7230a72f20a722_0a7330a76f20a732_0a77a0a77c20a779,
  0x0a77f0a78720a77e_0a78c0a78c10a78b_0a7910a79320a790_0a7940a79410a7c4_0a7970a7a920a796,
  0x0a7b50a7c320a7b4_0a7c80a7ca20a7c7_0a7d10a7d110a7d0_0a7d70a7d920a7d6_0a7f60a7f610a7f5,
  0x0ab530ab5310a7b3_0ab700abbf1013a0_0ff410ff5a10ff21_104281044f110400_104d8104fb1104b0,
  0x10597105a1110570_105a3105b111057c_105b3105b911058c_105bb105bc110594_10cc010cf2110c80,
  0x118c0118df1118a0_16e6016e7f116e40_1e9221e94311e900]

/-- Upper-case forms of several characters. -/
def upperWide : List (Nat × List Nat) :=
  wideOfRows [
    0x000df000530005300000_00149002bc0004e00000_001f00004a0030c00000_00390003990030800301,
    0x003b0003a50030800301_00587005350055200000_01e96000480033100000_01e97000540030800000,
    0x01e98000570030a00000_01e99000590030a00000_01e9a00041002be00000_01f50003a50031300000,
    0x01f52003a50031300300_01f54003a50031300301_01f56003a50031300342_01f8001f080039900000,
    0x01f8101f090039900000_01f8201f0a0039900000_01f8301f0b0039900000_01f8401f0c0039900000,
    0x01f8501f0d0039900000_01f8601f0e0039900000_01f8701f0f0039900000_01f8801f080039900000,
    0x01f8901f090039900000_01f8a01f0a0039900000_01f8b01f0b0039900000_01f8c01f0c0039900000,
    0x01f8d01f0d0039900000_01f8e01f0e0039900000_01f8f01f0f0039900000_01f9001f280039900000,
    0x01f9101f290039900000_01f9201f2a0039900000_01f9301f2b0039900000_01f9401f2c0039900000,
    0x01f9501f2d0039900000_01f9601f2e0039900000_01f9701f2f0039900000_01f9801f280039900000,
    0x01f9901f290039900000_01f9a01f2a0039900000_01f9b01f2b0039900000_01f9c01f2c0039900000,
    0x01f9d01f2d0039900000_01f9e01f2e0039900000_01f9f01f2f0039900000_01fa001f680039900000,
    0x01fa101f690039900000_01fa201f6a0039900000_01fa301f6b0039900000_01fa401f6c0039900000,
    0x01fa501f6d0039900000_01fa601f6e0039900000_01fa701f6f0039900000_01fa801f680039900000,
    0x01fa901f690039900000_01faa01f6a0039900000_01fab01f6b0039900000_01fac01f6c0039900000,
    0x01fad01f6d0039900000_01fae01f6e0039900000_01faf01f6f0039900000_01fb201fba0039900000,
    0x01fb3003910039900000_01fb4003860039900000_01fb6003910034200000_01fb7003910034200399,
    0x01fbc003910039900000_01fc201fca0039900000_01fc3003970039900000_01fc4003890039900000,
    0x01fc6003970034200000_01fc7003970034200399_01fcc003970039900000_01fd2003990030800300,
    0x01fd3003990030800301_01fd6003990034200000_01fd7003990030800342_01fe2003a50030800300,
    0x01fe3003a50030800301_01fe4003a10031300000_01fe6003a50034200000_01fe7003a50030800342,
    0x01ff201ffa0039900000_01ff3003a90039900000_01ff40038f0039900000_01ff6003a90034200000,
    0x01ff7003a90034200399_01ffc003a90039900000_0fb00000460004600000_0fb01000460004900000,
    0x0fb02000460004c00000_0fb03000460004600049_0fb0400046000460004c_0fb05000530005400000,
    0x0fb06000530005400000_0fb13005440054600000_0fb14005440053500000_0fb15005440053b00000,
    0x0fb160054e0054600000_0fb17005440053d00000]

/-- Letters with case beyond ASCII, as the rule for a final sigma sees them. -/
def casedRanges : Ranges := .ofRows [
  0x000aa000aa_000b5000b5_000ba000ba_000c0000d6_000d8000f6_000f8001ba_001bc001bf_001c400293,
  0x00295002af_0037000373_0037600377_0037b0037d_0037f0037f_0038600386_003880038a_0038c0038c,
  0x0038e003a1_003a3003f5_003f700481_0048a0052f_0053100556_0056000588_010a0010c5_010c7010c7,
  0x010cd010cd_010d0010fa_010fd010ff_013a0013f5_013f8013fd_01c8001c88_01c9001cba_01cbd01cbf,
  0x01d0001d2b_01d6b01d77_01d7901d9a_01e0001f15_01f1801f1d_01f2001f45_01f4801f4d_01f5001f57,
  0x01f5901f59_01f5b01f5b_01f5d01f5d_01f5f01f7d_01f8001fb4_01fb601fbc_01fbe01fbe_01fc201fc4,
  0x01fc601fcc_01fd001fd3_01fd601fdb_01fe001fec_01ff201ff4_01ff601ffc_0210202102_0210702107,
  0x0210a02113_0211502115_021190211d_0212402124_0212602126_0212802128_0212a0212d_0212f02134,
  0x0213902139_0213c0213f_0214502149_0214e0214e_021600217f_0218302184_024b6024e9_02c0002c7b,
  0x02c7e02ce4_02ceb02cee_02cf202cf3_02d0002d25_02d2702d27_02d2d02d2d_0a6400a66d_0a6800a69b,
  0x0a7220a76f_0a7710a787_0a78b0a78e_0a7900a7ca_0a7d00a7d1_0a7d30a7d3_0a7d50a7d9_0a7f50a7f6,
  0x0a7fa0a7fa_0ab300ab5a_0ab600ab68_0ab700abbf_0fb000fb06_0fb130fb17_0ff210ff3a_0ff410ff5a,
  0x104001044f_104b0104d3_104d8104fb_105701057a_1057c1058a_1058c10592_1059410595_10597105a1,
  0x105a3105b1_105b3105b9_105bb105bc_10c8010cb2_10cc010cf2_118a0118df_16e4016e7f_1d4001d454,
  0x1d4561d49c_1d49e1d49f_1d4a21d4a2_1d4a51d4a6_1d4a91d4ac_1d4ae1d4b9_1d4bb1d4bb_1d4bd1d4c3,
  0x1d4c51d505_1d5071d50a_1d50d1d514_1d5161d51c_1d51e1d539_1d53b1d53e_1d5401d544_1d5461d546,
  0x1d54a1d550_1d5521d6a5_1d6a81d6c0_1d6c21d6da_1d6dc1d6fa_1d6fc1d714_1d7161d734_1d7361d74e,
  0x1d7501d76e_1d7701d788_1d78a1d7a8_1d7aa1d7c2_1d7c41d7cb_1df001df09_1df0b1df1e_1e9001e943,
  0x1f1301f149_1f1501f169_1f1701f189]

/-- Characters that the rule for a final sigma looks through. -/
def caseIgnorableRanges : Ranges := .ofRows [
  0x000a8000a8_000ad000ad_000af000af_000b4000b4_000b7000b8_002b00036f_0037400375_0037a0037a,
  0x0038400385_0038700387_0048300489_0055900559_0055f0055f_00591005bd_005bf005bf_005c1005c2,
  0x005c4005c5_005c7005c7_005f4005f4_0060000605_006100061a_0061c0061c_0064000640_0064b0065f,
  0x0067000670_006d6006dd_006df006e8_006ea006ed_0070f0070f_0071100711_007300074a_007a6007b0,
  0x007eb007f5_007fa007fa_007fd007fd_008160082d_008590085b_0088800888_0089000891_008980089f,
  0x008c900902_0093a0093a_0093c0093c_0094100948_0094d0094d_0095100957_0096200963_0097100971,
  0x0098100981_009bc009bc_009c1009c4_009cd009cd_009e2009e3_009fe009fe_00a0100a02_00a3c00a3c,
  0x00a4100a42_00a4700a48_00a4b00a4d_00a5100a51_00a7000a71_00a7500a75_00a8100a82_00abc00abc,
  0x00ac100ac5_00ac700ac8_00acd00acd_00ae200ae3_00afa00aff_00b0100b01_00b3c00b3c_00b3f00b3f,
  0x00b4100b44_00b4d00b4d_00b5500b56_00b6200b63_00b8200b82_00bc000bc0_00bcd00bcd_00c0000c00,
  0x00c0400c04_00c3c00c3c_00c3e00c40_00c4600c48_00c4a00c4d_00c5500c56_00c6200c63_00c8100c81,
  0x00cbc00cbc_00cbf00cbf_00cc600cc6_00ccc00ccd_00ce200ce3_00d0000d01_00d3b00d3c_00d4100d44,
  0x00d4d00d4d_00d6200d63_00d8100d81_00dca00dca_00dd200dd4_00dd600dd6_00e3100e31_00e3400e3a,
  0x00e4600e4e_00eb100eb1_00eb400ebc_00ec600ec6_00ec800ecd_00f1800f19_00f3500f35_00f3700f37,
  0x00f3900f39_00f7100f7e_00f8000f84_00f8600f87_00f8d00f97_00f9900fbc_00fc600fc6_0102d01030,
  0x0103201037_010390103a_0103d0103e_0105801059_0105e01060_0107101074_0108201082_0108501086,
  0x0108d0108d_0109d0109d_010fc010fc_0135d0135f_0171201714_0173201733_0175201753_0177201773,
  0x017b4017b5_017b7017bd_017c6017c6_017c9017d3_017d7017d7_017dd017dd_0180b0180f_0184301843,
  0x0188501886_018a9018a9_0192001922_0192701928_0193201932_019390193b_01a1701a18_01a1b01a1b,
  0x01a5601a56_01a5801a5e_01a6001a60_01a6201a62_01a6501a6c_01a7301a7c_01a7f01a7f_01aa701aa7,
  0x01ab001ace_01b0001b03_01b3401b34_01b3601b3a_01b3c01b3c_01b4201b42_01b6b01b73_01b8001b81,
  0x01ba201ba5_01ba801ba9_01bab01bad_01be601be6_01be801be9_01bed01bed_01bef01bf1_01c2c01c33,
  0x01c3601c37_01c7801c7d_01cd001cd2_01cd401ce0_01ce201ce8_01ced01ced_01cf401cf4_01cf801cf9,
  0x01d2c01d6a_01d7801d78_01d9b01dff_01fbd01fbd_01fbf01fc1_01fcd01fcf_01fdd01fdf_01fed01fef,
  0x01ffd01ffe_0200b0200f_0201802019_0202402024_0202702027_0202a0202e_0206002064_020660206f,
  0x0207102071_0207f0207f_020900209c_020d0020f0_02c7c02c7d_02cef02cf1_02d6f02d6f_02d7f02d7f,
  0x02de002dff_02e2f02e2f_0300503005_0302a0302d_0303103035_0303b0303b_030990309e_030fc030fe,
  0x0a0150a015_0a4f80a4fd_0a60c0a60c_0a66f0a672_0a6740a67d_0a67f0a67f_0a69c0a69f_0a6f00a6f1,
  0x0a7000a721_0a7700a770_0a7880a78a_0a7f20a7f4_0a7f80a7f9_0a8020a802_0a8060a806_0a80b0a80b,
  0x0a8250a826_0a82c0a82c_0a8c40a8c5_0a8e00a8f1_0a8ff0a8ff_0a9260a92d_0a9470a951_0a9800a982,
  0x0a9b30a9b3_0a9b60a9b9_0a9bc0a9bd_0a9cf0a9cf_0a9e50a9e6_0aa290aa2e_0aa310aa32_0aa350aa36,
  0x0aa430aa43_0aa4c0aa4c_0aa700aa70_0aa7c0aa7c_0aab00aab0_0aab20aab4_0aab70aab8_0aabe0aabf,
  0x0aac10aac1_0aadd0aadd_0aaec0aaed_0aaf30aaf4_0aaf60aaf6_0ab5b0ab5f_0ab690ab6b_0abe50abe5,
  0x0abe80abe8_0abed0abed_0fb1e0fb1e_0fbb20fbc2_0fe000fe0f_0fe130fe13_0fe200fe2f_0fe520fe52,
  0x0fe550fe55_0feff0feff_0ff070ff07_0ff0e0ff0e_0ff1a0ff1a_0ff3e0ff3e_0ff400ff40_0ff700ff70,
  0x0ff9e0ff9f_0ffe30ffe3_0fff90fffb_101fd101fd_102e0102e0_103761037a_1078010785_10787107b0,
  0x107b2107ba_10a0110a03_10a0510a06_10a0c10a0f_10a3810a3a_10a3f10a3f_10ae510ae6_10d2410d27,
  0x10eab10eac_10f4610f50_10f8210f85_1100111001_1103811046_1107011070_1107311074_1107f11081,
  0x110b3110b6_110b9110ba_110bd110bd_110c2110c2_110cd110cd_1110011102_111271112b_1112d11134,
  0x1117311173_1118011181_111b6111be_111c9111cc_111cf111cf_1122f11231_1123411234_1123611237,
  0x1123e1123e_112df112df_112e3112ea_1130011301_1133b1133c_1134011340_113661136c_1137011374,
  0x114381143f_1144211444_1144611446_1145e1145e_114b3114b8_114ba114ba_114bf114c0_114c2114c3,
  0x115b2115b5_115bc115bd_115bf115c0_115dc115dd_116331163a_1163d1163d_1163f11640_116ab116ab,
  0x116ad116ad_116b0116b5_116b7116b7_1171d1171f_1172211725_117271172b_1182f11837_118391183a,
  0x1193b1193c_1193e1193e_1194311943_119d4119d7_119da119db_119e0119e0_11a0111a0a_11a3311a38,
  0x11a3b11a3e_11a4711a47_11a5111a56_11a5911a5b_11a8a11a96_11a9811a99_11c3011c36_11c3811c3d,
  0x11c3f11c3f_11c9211ca7_11caa11cb0_11cb211cb3_11cb511cb6_11d3111d36_11d3a11d3a_11d3c11d3d,
  0x11d3f11d45_11d4711d47_11d9011d91_11d9511d95_11d9711d97_11ef311ef4_1343013438_16af016af4,
  0x16b3016b36_16b4016b43_16f4f16f4f_16f8f16f9f_16fe016fe1_16fe316fe4_1aff01aff3_1aff51affb,
  0x1affd1affe_1bc9d1bc9e_1bca01bca3_1cf001cf2d_1cf301cf46_1d1671d169_1d1731d182_1d1851d18b,
  0x1d1aa1d1ad_1d2421d244_1da001da36_1da3b1da6c_1da751da75_1da841da84_1da9b1da9f_1daa11daaf,
  0x1e0001e006_1e0081e018_1e01b1e021_1e0231e024_1e0261e02a_1e1301e13d_1e2ae1e2ae_1e2ec1e2ef,
  0x1e8d01e8d6_1e9441e94b_1f3fb1f3ff_e0001e0001_e0020e007f_e0100e01ef]

/-- The image of a code point under the first run that holds it. -/
def CaseRun.image? (runs : List CaseRun) (n : Nat) : Option Nat :=
  (runs.find? fun run => run.first ≤ n && n ≤ run.last && (n - run.first) % run.step == 0).map
    fun run => run.image + (n - run.first)

/-- The image of a character under a table, or the character itself. -/
def mapped (runs : List CaseRun) (wide : List (Nat × List Nat)) (c : Char) : List Char :=
  match CaseRun.image? runs c.toNat with
  | some n => [Char.ofNat n]
  | none => match wide.lookup c.toNat with
    | some ns => ns.map Char.ofNat
    | none => [c]

/-- The lower-case form of a character on its own. -/
def lowerChar (c : Char) : List Char :=
  if c.toNat < 0x80 then [c.toLower] else mapped lowerRuns lowerWide c

/-- The upper-case form of a character. -/
def upperChar (c : Char) : List Char :=
  if c.toNat < 0x80 then [c.toUpper] else mapped upperRuns upperWide c

/-- A letter that has case. -/
def isCased (c : Char) : Bool :=
  if c.toNat < 0x80 then c.isAlpha else casedRanges.has c

/-- A mark or sign that does not end a word for the rule of the final sigma. -/
def isCaseIgnorable (c : Char) : Bool :=
  if c.toNat < 0x80 then "'.:^`".toList.contains c else caseIgnorableRanges.has c

/-- The nearest character that is not ignorable has case. -/
def nextIsCased (text : List Char) : Bool :=
  match text.dropWhile isCaseIgnorable with
  | [] => false
  | c :: _ => isCased c

/-- Lower case of a text whose reversed context is `before`. -/
def lowerAfter (before : List Char) : List Char → List Char
  | [] => []
  | c :: rest =>
    let image :=
      if c.toNat == 0x3a3 then
        [Char.ofNat (if nextIsCased before && !nextIsCased rest then 0x3c2 else 0x3c3)]
      else lowerChar c
    image ++ lowerAfter (c :: before) rest

/-- Lower case of a text. -/
def lowerText (text : List Char) : List Char := lowerAfter [] text

/-- Upper case of a text. -/
def upperText (text : List Char) : List Char := text.flatMap upperChar

/-- Lower case of a string. -/
def lower (text : String) : String := String.ofList (lowerText text.toList)

/-- Upper case of a string. -/
def upper (text : String) : String := String.ofList (upperText text.toList)

end Blueprint.Text
