import Blueprint.Text.Case

/-!
The normal form of names: characters are taken apart, the marks on each letter are put in order, and
what can be put together is. Texts with one normal form are one name. The tables have forms of other
characters, wide and narrow forms, ligatures, letters with marks, and the order of the marks on a
letter, for what may stand in a name; syllables of Hangul are computed.
-/

namespace Blueprint.Text

/-- Runs of characters that stand for one other. -/
def formRuns : List CaseRun := CaseRun.ofRows [
  0x01d3101d39200045_01d3401d3a200048_01dae01db1100272_020960209910006b_02135021381005d0,
  0x0313a0313f1011b0_031450314e101109_0314f03163101161_031780317c10112b_0ff100ff19100030,
  0x0ff210ff3a100041_0ff3f0ff5920005f_0ff420ff5a200062_0ff850ff8a1030ca_0ff8f0ff931030de,
  0x0ff960ff9b1030e8_0ffaa0ffaf1011b0_0ffb50ffbe101109_0ffc20ffc7101161_0ffca0ffcf101167,
  0x0ffd20ffd710116d_1d4001d419100041_1d41a1d433100061_1d4341d44d100041_1d44e1d466200061,
  0x1d44f1d467400062_1d4591d46540006c_1d4681d481100041_1d4821d49b100061_1d49e1d4b2400043,
  0x1d4af1d4b5200054_1d4b61d4b9100061_1d4bb1d4cf200066_1d4be1d4ce400069_1d4d01d4e9100041,
  0x1d4ea1d503100061_1d5051d511400042_1d50a1d51a400047_1d50f1d51b40004c_1d5101d51c40004d,
  0x1d51e1d537100061_1d5381d544400041_1d53e1d54e400047_1d5521d56b100061_1d56c1d585100041,
  0x1d5861d59f100061_1d5a01d5b9100041_1d5ba1d5d3100061_1d5d41d5ed100041_1d5ee1d607100061,
  0x1d6081d621100041_1d6221d63b100061_1d63c1d655100041_1d6561d66f100061_1d6701d689100041,
  0x1d68a1d6a3100061_1d6a81d6b8100391_1d6ba1d6c01003a3_1d6c21d6da1003b1_1d6e21d6f2100391,
  0x1d6f41d6fa1003a3_1d6fc1d7141003b1_1d71c1d72c100391_1d72e1d7341003a3_1d7361d74e1003b1,
  0x1d7561d766100391_1d7681d76e1003a3_1d7701d7881003b1_1d7901d7a0100391_1d7a21d7a81003a3,
  0x1d7aa1d7c21003b1_1d7ce1d7d7100030_1d7d81d7e1100030_1d7e21d7eb100030_1d7ec1d7f5100030,
  0x1d7f61d7ff100030_1ee0a1ee0d100643_1ee2a1ee2d100643_1fbf01fbf9100030]

/-- Consecutive characters and what they stand for, in as many places for each. Blanks fill the
places up; a character with nothing else stands for itself. -/
structure FormBlock where
  first : Nat
  last : Nat
  images : String

/-- Characters that stand for others, follow no rule and are not put together again. -/
def formBlocks : List FormBlock := [
  ⟨0xaa, 0xba, "a          μ    o"⟩, ⟨0x132, 0x133, "IJij"⟩, ⟨0x13f, 0x140, "L·l·"⟩,
  ⟨0x149, 0x149, "ʼn"⟩, ⟨0x17f, 0x17f, "s"⟩,
  ⟨0x1c4, 0x1cc, "DZ\u030cDz\u030cdz\u030cLJ Lj lj NJ Nj nj "⟩, ⟨0x1f1, 0x1f3, "DZDzdz"⟩,
  ⟨0x2b0, 0x2b8, "hɦjrɹɻʁwy"⟩, ⟨0x2e0, 0x2e4, "ɣlsxʕ"⟩,
  ⟨0x340, 0x344, "\u0300 \u0301   \u0313 \u0308\u0301"⟩, ⟨0x374, 0x374, "ʹ"⟩, ⟨0x387, 0x387, "·"⟩,
  ⟨0x3d0, 0x3d6, "β θ Υ Υ\u0301Υ\u0308φ π "⟩, ⟨0x3f0, 0x3f9, "κρς Θε   Σ"⟩, ⟨0x587, 0x587, "եւ"⟩,
  ⟨0x675, 0x678, "اٴوٴۇٴيٴ"⟩,
  ⟨0x958, 0x95f, "क\u093cख\u093cग\u093cज\u093cड\u093cढ\u093cफ\u093cय\u093c"⟩,
  ⟨0x9dc, 0x9df, "ড\u09bcঢ\u09bc  য\u09bc"⟩, ⟨0xa33, 0xa36, "ਲ\u0a3c    ਸ\u0a3c"⟩,
  ⟨0xa59, 0xa5e, "ਖ\u0a3cਗ\u0a3cਜ\u0a3c    ਫ\u0a3c"⟩, ⟨0xb5c, 0xb5d, "ଡ\u0b3cଢ\u0b3c"⟩,
  ⟨0xe33, 0xe33, "\u0e4dา"⟩, ⟨0xeb3, 0xeb3, "\u0ecdາ"⟩, ⟨0xedc, 0xedd, "ຫນຫມ"⟩,
  ⟨0xf43, 0xf43, "ག\u0fb7"⟩, ⟨0xf4d, 0xf5c, "ཌ\u0fb7        ད\u0fb7        བ\u0fb7        ཛ\u0fb7"⟩,
  ⟨0xf69, 0xf69, "ཀ\u0fb5"⟩, ⟨0xf73, 0xf76, "\u0f71\u0f72  \u0f71\u0f74\u0fb2\u0f80"⟩,
  ⟨0xf77, 0xf79, "\u0fb2\u0f71\u0f80\u0fb3\u0f80 \u0fb3\u0f71\u0f80"⟩,
  ⟨0xf81, 0xf81, "\u0f71\u0f80"⟩, ⟨0xf93, 0xf93, "\u0f92\u0fb7"⟩,
  ⟨0xf9d, 0xfac, "\u0f9c\u0fb7        \u0fa1\u0fb7        \u0fa6\u0fb7        \u0fab\u0fb7"⟩,
  ⟨0xfb9, 0xfb9, "\u0f90\u0fb5"⟩, ⟨0x10fc, 0x10fc, "ნ"⟩,
  ⟨0x1d2c, 0x1d6a, "AÆB D Ǝ         OȢPRTUWaɐɑᴂbdeəɛɜg kmŋoɔᴖᴗptuᴝɯvᴥβγδφχiruvβγρφχ"⟩,
  ⟨0x1d78, 0x1d78, "н"⟩, ⟨0x1d9b, 0x1dbf, "ɒcɕðɜfɟɡɥɨɩɪᵻʝɭᶅʟɱɰ    ɸʂʃƫʉʊᴜʋʌzʐʑʒθ"⟩,
  ⟨0x1e9a, 0x1e9b, "aʾs\u0307"⟩,
  ⟨0x1f71, 0x1f7d, "α\u0301  ε\u0301  η\u0301  ι\u0301  ο\u0301  υ\u0301  ω\u0301"⟩,
  ⟨0x1fbb, 0x1fbe, "Α\u0301    ι "⟩, ⟨0x1fc9, 0x1fcb, "Ε\u0301  Η\u0301"⟩,
  ⟨0x1fd3, 0x1fd3, "ι\u0308\u0301"⟩, ⟨0x1fdb, 0x1fdb, "Ι\u0301"⟩, ⟨0x1fe3, 0x1fe3, "υ\u0308\u0301"⟩,
  ⟨0x1feb, 0x1feb, "Υ\u0301"⟩, ⟨0x1ff9, 0x1ffb, "Ο\u0301  Ω\u0301"⟩, ⟨0x2071, 0x2071, "i"⟩,
  ⟨0x207f, 0x207f, "n"⟩, ⟨0x2090, 0x209c, "aeoxəh    pst"⟩,
  ⟨0x2102, 0x212a, "C    Ɛ  gHHHhħIILl N   PQRRR      Z Ω Z K"⟩,
  ⟨0x212b, 0x2149, "A\u030aB C   e E F   M o         i     π γ Γ Π           D d e i j "⟩,
  ⟨0x2160, 0x2166, "I  II IIIIV V  VI VII"⟩,
  ⟨0x2167, 0x2178, "VIIIIX  X   XI  XII L   C   D   M   i   ii  iii iv  v   vi  vii viiiix  "⟩,
  ⟨0x2179, 0x217f, "x  xi xiil  c  d  m  "⟩, ⟨0x2c7c, 0x2c7d, "jV"⟩, ⟨0x2d6f, 0x2d6f, "ⵡ"⟩,
  ⟨0x3038, 0x303a, "十卄卅"⟩, ⟨0x309f, 0x309f, "より"⟩, ⟨0x30ff, 0x30ff, "コト"⟩,
  ⟨0x3131, 0x3144, "ᄀᄁᆪᄂᆬᆭᄃᄄᄅ      ᄚᄆᄇᄈᄡ"⟩,
  ⟨0x3164, 0x318e, "ᅠᄔᄕᇇᇈᇌᇎᇓᇗᇙᄜᇝᇟᄝᄞᄠᄢᄣᄧᄩ     ᄲᄶᅀᅇᅌᇱᇲᅗᅘᅙᆄᆅᆈᆑᆒᆔᆞᆡ"⟩, ⟨0xa69c, 0xa69d, "ъь"⟩,
  ⟨0xa770, 0xa770, "ꝯ"⟩, ⟨0xa7f2, 0xa7f9, "CFQ   Ħœ"⟩, ⟨0xab5c, 0xab69, "ꜧꬷɫꭒ         ʍ"⟩,
  ⟨0xf900, 0xf949, "豈更車賈滑串句龜龜契金喇奈懶癩羅蘿螺裸邏樂洛烙珞落酪駱亂卵欄爛蘭鸞嵐濫藍襤拉臘蠟廊朗浪狼郎來冷勞擄櫓爐盧老蘆虜路露魯鷺碌祿綠菉錄鹿論壟弄籠聾牢磊賂雷"⟩,
  ⟨0xf94a, 0xf993, "壘屢樓淚漏累縷陋勒肋凜凌稜綾菱陵讀拏樂諾丹寧怒率異北磻便復不泌數索參塞省葉說殺辰沈拾若掠略亮兩凉梁糧良諒量勵呂女廬旅濾礪閭驪麗黎力曆歷轢年憐戀撚漣煉"⟩,
  ⟨0xf994, 0xf9dd, "璉秊練聯輦蓮連鍊列劣咽烈裂說廉念捻殮簾獵令囹寧嶺怜玲瑩羚聆鈴零靈領例禮醴隸惡了僚寮尿料樂燎療蓼遼龍暈阮劉杻柳流溜琉留硫紐類六戮陸倫崙淪輪律慄栗率隆利"⟩,
  ⟨0xf9de, 0xfa26, "吏履易李梨泥理痢罹裏裡里離匿溺吝燐璘藺隣鱗麟林淋臨立笠粒狀炙識什茶刺切度拓糖宅洞暴輻行降見廓兀嗀  塚 晴  凞猪益礼神祥福靖精羽 蘒 諸  逸都"⟩,
  ⟨0xfa2a, 0xfa73, "飯飼館鶴郞隷侮僧免勉勤卑喝嘆器塀墨層屮悔慨憎懲敏既暑梅海渚漢煮爫琢碑社祉祈祐祖祝禍禎穀突節練縉繁署者臭艹艹著褐視謁謹賓贈辶逸難響頻恵𤋮舘  並况全侀"⟩,
  ⟨0xfa74, 0xfabd, "充冀勇勺喝啕喙嗢塚墳奄奔婢嬨廒廙彩徭惘慎愈憎慠懲戴揄搜摒敖晴朗望杖歹殺流滛滋漢瀞煮瞧爵犯猪瑱甆画瘝瘟益盛直睊着磌窱節类絛練缾者荒華蝹襁覆視調諸請謁諾"⟩,
  ⟨0xfabe, 0xfad9, "諭謹變贈輸遲醙鉶陼難靖韛響頋頻鬒龜𢡊𢡄𣏕㮝䀘䀹𥉉𥳐𧻓齃龎"⟩, ⟨0xfb00, 0xfb06, "ff fi fl ffifflst st "⟩,
  ⟨0xfb13, 0xfb2b, "մնմեմիվնմխ          י\u05b4  ײ\u05b7ע א ד ה כ ל ם ר ת   ש\u05c1ש\u05c2"⟩,
  ⟨0xfb2c, 0xfb33, "ש\u05bc\u05c1ש\u05bc\u05c2א\u05b7 א\u05b8 א\u05bc ב\u05bc ג\u05bc ד\u05bc "⟩,
  ⟨0xfb34, 0xfb3e, "ה\u05bcו\u05bcז\u05bc  ט\u05bcי\u05bcך\u05bcכ\u05bcל\u05bc  מ\u05bc"⟩,
  ⟨0xfb40, 0xfb4b, "נ\u05bcס\u05bc  ף\u05bcפ\u05bc  צ\u05bcק\u05bcר\u05bcש\u05bcת\u05bcו\u05b9"⟩,
  ⟨0xfb4c, 0xfb68, "ב\u05bfכ\u05bfפ\u05bfאלٱ ٱ ٻ ٻ ٻ ٻ پ پ پ پ ڀ ڀ ڀ ڀ ٺ ٺ ٺ ٺ ٿ ٿ ٿ ٿ ٹ ٹ ٹ "⟩,
  ⟨0xfb69, 0xfba3, "ٹڤڤڤڤڦڦڦڦڄڄڄڄڃڃڃڃچچچچڇڇڇڇڍڍڌڌڎڎڈڈژژڑڑککککگگگگڳڳڳڳڱڱڱڱںںڻڻڻڻ"⟩,
  ⟨0xfba4, 0xfbb1, "ە\u0654ە\u0654ہ ہ ہ ہ ھ ھ ھ ھ ے ے ے\u0654ے\u0654"⟩,
  ⟨0xfbd3, 0xfbdc, "ڭڭڭڭۇۇۆۆۈۈ"⟩, ⟨0xfbdd, 0xfbe9, "ۇٴۋ ۋ ۅ ۅ ۉ ۉ ې ې ې ې ى ى "⟩,
  ⟨0xfbea, 0xfbf2, "ي\u0654اي\u0654اي\u0654ەي\u0654ەي\u0654وي\u0654وي\u0654ۇي\u0654ۇي\u0654ۆ"⟩,
  ⟨0xfbf3, 0xfbfb, "ي\u0654ۆي\u0654ۈي\u0654ۈي\u0654ېي\u0654ېي\u0654ېي\u0654ىي\u0654ىي\u0654ى"⟩,
  ⟨0xfbfc, 0xfbff, "یییی"⟩,
  ⟨0xfc00, 0xfc0f, "ي\u0654جي\u0654حي\u0654مي\u0654ىي\u0654يبج بح بخ بم بى بي تج تح تخ تم تى "⟩,
  ⟨0xfc10, 0xfc34, "تيثجثمثىثيجحجمحجحمخجخحخمسجسحسخسمصحصمضجضحضخضمطحطمظمعجعمغجغمفجفحفخفمفىفيقحقم"⟩,
  ⟨0xfc35, 0xfc59, "قىقيكاكجكحكخكلكمكىكيلجلحلخلملىليمجمحمخمممىمينجنحنخنمنىنيهجهمهىهييجيحيخيميى"⟩,
  ⟨0xfc5a, 0xfc5d, "ييذ\u0670ر\u0670ى\u0670"⟩,
  ⟨0xfc64, 0xfc71, "ي\u0654ري\u0654زي\u0654مي\u0654ني\u0654ىي\u0654يبر بز بم بن بى بي تر تز "⟩,
  ⟨0xfc72, 0xfc93, "تمتنتىتيثرثزثمثنثىثيفىفيقىقيكاكلكمكىكيلملىليماممنرنزنمنننىنيى\u0670يريزيم"⟩,
  ⟨0xfc94, 0xfca3, "ين يى يي ي\u0654جي\u0654حي\u0654خي\u0654مي\u0654هبج بح بخ بم به تج تح تخ "⟩,
  ⟨0xfca4, 0xfcc8, "تمتهثمجحجمحجحمخجخمسجسحسخسمصحصخصمضجضحضخضمطحظمعجعمغجغمفجفحفخفمقحقمكجكحكخكلكم"⟩,
  ⟨0xfcc9, 0xfcde, "لجلحلخلملهمجمحمخممنجنحنخنمنههجهمه\u0670يجيحيخيميه"⟩,
  ⟨0xfcdf, 0xfcf1, "ي\u0654مي\u0654هبم به تم ته ثم ثه سم سه شم شه كل كم لم نم نه يم يه "⟩,
  ⟨0xfcf2, 0xfcff, "ـ\u064e\u0651ـ\u064f\u0651ـ\u0650\u0651طى طي عى عي غى غي سى سي شى شي حى "⟩,
  ⟨0xfd00, 0xfd24, "حيجىجيخىخيصىصيضىضيشجشحشخشمشرسرصرضرطىطيعىعيغىغيسىسيشىشيحىحيجىجيخىخيصىصيضىضي"⟩,
  ⟨0xfd25, 0xfd3d, "شجشحشخشمشرسرصرضرشجشحشخشمسهشهطمسجسحسخشجشحشخطمظما\u064bا\u064b"⟩,
  ⟨0xfd50, 0xfd67, "تجمتحجتحجتحمتخمتمجتمحتمخجمحجمححميحمىسحجسجحسجىسمحسمحسمجسممسممصححصححصممشحم"⟩,
  ⟨0xfd68, 0xfd7f, "شحمشجيشمخشمخشممشممضحىضخمضخمطمحطمحطممطميعجمعممعممعمىغممغميغمىفخمفخمقمحقمم"⟩,
  ⟨0xfd80, 0xfd97, "لحملحيلحىلججلججلخملخملمحلمحمحجمحممحيمجحمجممخجمخم      مجخهمجهممنحمنحىنجم"⟩,
  ⟨0xfd98, 0xfdaf, "نجمنجىنمينمىيمميممبخيتجيتجىتخيتخىتميتمىجميجحىجمىسخىصحيشحيضحيلجيلمييحييجي"⟩,
  ⟨0xfdb0, 0xfdc7, "يميمميقمينحيقمحلحمعميكمينجحمخيلجمكمملجمنجحجحيحجيمجيفميبحيكممعجمصممسخينجي"⟩,
  ⟨0xfdf0, 0xfdf9, "صلے قلے اللهاكبرمحمدصلعمرسولعليهوسلمصلى "⟩, ⟨0xfe33, 0xfe34, "__"⟩,
  ⟨0xfe4d, 0xfe4f, "___"⟩,
  ⟨0xfe71, 0xfe81, "ـ\u064b          ـ\u064e  ـ\u064f  ـ\u0650  ـ\u0651  ـ\u0652ء ا\u0653"⟩,
  ⟨0xfe82, 0xfe8b, "ا\u0653ا\u0654ا\u0654و\u0654و\u0654ا\u0655ا\u0655ي\u0654ي\u0654ي\u0654"⟩,
  ⟨0xfe8c, 0xfead, "ي\u0654ا ا ب ب ب ب ة ة ت ت ت ت ث ث ث ث ج ج ج ج ح ح ح ح خ خ خ خ د د ذ ذ ر "⟩,
  ⟨0xfeae, 0xfef4, "رززسسسسششششصصصصضضضضططططظظظظععععغغغغففففققققككككللللممممننننههههووىىيييي"⟩,
  ⟨0xfef5, 0xfefc, "لا\u0653لا\u0653لا\u0654لا\u0654لا\u0655لا\u0655لا لا "⟩,
  ⟨0xff66, 0xffa5, "ヲァィゥェォャュョッーアイウエオカキクケコサシスセソタチツテト      ヒフヘホ     ヤユ      ワン\u3099\u309aᅠᄀᄁᆪᄂᆬ"⟩,
  ⟨0xffa6, 0xffb4, "ᆭᄃᄄᄅ      ᄚᄆᄇᄈᄡ"⟩, ⟨0xffda, 0xffdc, "ᅳᅴᅵ"⟩,
  ⟨0x10781, 0x107ba, "ːˑæʙɓ ʣꭦʥʤɖɗᶑɘɞʩɤɢɠʛħʜɧʄʪʫɬ𝼄ꞎɮ𝼅ʎ𝼆øɶɷqɺ𝼈ɽɾʀʨʦꭧʧʈⱱ ʏʡʢʘǀǁǂ𝼊𝼞"⟩,
  ⟨0x1d451, 0x1d451, "d"⟩, ⟨0x1d49c, 0x1d4b4, "A  D     J   N PQ   U   Y"⟩,
  ⟨0x1d4c0, 0x1d4cc, "k       s   w"⟩, ⟨0x1d504, 0x1d508, "A  DE"⟩, ⟨0x1d519, 0x1d519, "V"⟩,
  ⟨0x1d539, 0x1d550, "B D F   J L       TUV XY"⟩, ⟨0x1d6a4, 0x1d6a5, "ıȷ"⟩, ⟨0x1d6b9, 0x1d6b9, "Θ"⟩,
  ⟨0x1d6dc, 0x1d6e1, "εθκφρπ"⟩, ⟨0x1d6f3, 0x1d6f3, "Θ"⟩, ⟨0x1d716, 0x1d71b, "εθκφρπ"⟩,
  ⟨0x1d72d, 0x1d72d, "Θ"⟩, ⟨0x1d750, 0x1d755, "εθκφρπ"⟩, ⟨0x1d767, 0x1d767, "Θ"⟩,
  ⟨0x1d78a, 0x1d78f, "εθκφρπ"⟩, ⟨0x1d7a1, 0x1d7a1, "Θ"⟩, ⟨0x1d7c4, 0x1d7cb, "εθκφρπϜϝ"⟩,
  ⟨0x1ee00, 0x1ee49, "ابجد وزحطي    سعفصقرشتثخذضظغٮںڡٯ بج ه  ح ي    سعفصق شتثخ ض غ      ج    ح ي"⟩,
  ⟨0x1ee4b, 0x1ee94, "ل نسع صق ش  خ ض غ ں ٯ بج ه  حطيك منسعفصق شتثخ ضظغٮ ڡ ابجدهوزحطي لمنسعفصقرش"⟩,
  ⟨0x1ee95, 0x1eebb, "تثخذضظغ     بجد وزحطي لمنسعفصقرشتثخذضظغ"⟩,
  ⟨0x2f800, 0x2f849, "丽丸乁𠄢你侮侻倂偺備僧像㒞𠘺免兔兤具𠔜㒹內再𠕋冗冤仌冬况𩇟凵刃㓟刻剆割剷㔕勇勉勤勺包匆北卉卑博即卽卿卿卿𠨬灰及叟𠭣叫叱吆咞吸呈周咢哶唐啓啣善善喙喫喳"⟩,
  ⟨0x2f84a, 0x2f893, "嗂圖嘆圗噑噴切壮城埴堍型堲報墬𡓤売壷夆多夢奢𡚨𡛪姬娛娧姘婦㛮㛼嬈嬾嬾𡧈寃寘寧寳𡬘寿将当尢㞁屠屮峀岍𡷤嵃𡷦嵮嵫嵼巡巢㠯巽帨帽幩㡢𢆃㡼庰庳庶廊𪎒廾𢌱𢌱舁"⟩,
  ⟨0x2f894, 0x2f8dd, "弢弢㣇𣊸𦇚形彫㣣徚忍志忹悁㤺㤜悔𢛔惇慈慌慎慌慺憎憲憤憯懞懲懶成戛扝抱拔捐𢬌挽拼捨掃揤𢯱搢揅掩㨮摩摾撝摷㩬敏敬𣀊旣書晉㬙暑㬈㫤冒冕最暜肭䏙朗望朡杞杓𣏃"⟩,
  ⟨0x2f8de, 0x2f927, "㭉柺枅桒梅𣑭梎栟椔㮝楂榣槪檨𣚣櫛㰘次𣢧歔㱎歲殟殺殻𣪍𡴋𣫺汎𣲼沿泍汧洖派海流浩浸涅𣴞洴港湮㴳滋滇𣻑淹潮𣽞𣾎濆瀹瀞瀛㶖灊災灷炭𠔥煅𤉣熜𤎫爨爵牐𤘈犀犕𤜵𤠔"⟩,
  ⟨0x2f928, 0x2f971, "獺王㺬玥㺸㺸瑇瑜瑱璅瓊㼛甤𤰶甾𤲒異𢆟瘐𤾡𤾸𥁄㿼䀈直𥃳𥃲𥄙𥄳眞真真睊䀹瞋䁆䂖𥐝硎碌磌䃣𥘦祖𥚚𥛅福秫䄯穀穊穏𥥼𥪧𥪧竮䈂𥮫篆築䈧𥲀糒䊠糨糣紀𥾆絣䌁緇縂繅䌴"⟩,
  ⟨0x2f972, 0x2f9bb, "𦈨𦉇䍙𦋙罺𦌾羕翺者𦓚𦔣聠𦖨聰𣍟䏕育脃䐋脾媵𦞧𦞵𣎓𣎜舁舄辞䑫芑芋芝劳花芳芽苦𦬼若茝荣莭茣莽菧著荓菊菌菜𦰶𦵫𦳕䔫蓱蓳蔖𧏊蕤𦼬䕝䕡𦾱𧃒䕫虐虜虧虩蚩蚈蜎蛢蝹"⟩,
  ⟨0x2f9bc, 0x2fa05, "蜨蝫螆䗗蟡蠁䗹衠衣𧙧裗裞䘵裺㒻𧢮𧥦䚾䛇誠諭變豕𧲨貫賁贛起𧼯𠠄跋趼跰𠣞軔輸𨗒𨗭邔郱鄑𨜮鄛鈸鋗鋘鉼鏹鐕𨯺開䦕閷𨵷䧦雃嶲霣𩅅𩈚䩮䩶韠𩐊䪲𩒖頋頋頩𩖶飢䬳餩馧"⟩,
  ⟨0x2fa06, 0x2fa1d, "駂駾䯎𩬰鬒鱀鳽䳎䳭鵧𪃎䳸𪄅𪈎𪊑麻䵖黹黾鼅鼏鼖鼻𪘀"⟩]

/-- Letters that take a mark, and what each is with it. -/
structure MarkedLetters where
  mark : Nat
  letters : String
  images : String

/-- Letters and the marks that they take; a letter with a mark may take a further one. -/
def markedLetters : List MarkedLetters := [
  ⟨0x300, "AEIOUaeiouÜüNnЕИеиĒēŌōWwÂâĂăÊêÔôƠơƯư", "ÀÈÌÒÙàèìòùǛǜǸǹЀЍѐѝḔḕṐṑẀẁẦầẰằỀềỒồỜờỪừ"⟩,
  ⟨0x300, "YyἀἁἈἉἐἑἘἙἠἡἨἩἰἱἸἹὀὁὈὉὐὑὙὠὡὨὩαεηιουω", "ỲỳἂἃἊἋἒἓἚἛἢἣἪἫἲἳἺἻὂὃὊὋὒὓὛὢὣὪὫὰὲὴὶὸὺὼ"⟩,
  ⟨0x300, "ΑΕΗϊΙϋΥΟΩ", "ᾺῈῊῒῚῢῪῸῺ"⟩,
  ⟨0x301, "AEIOUYaeiouyCcLlNnRrSsZzÜüGgÅåÆæØøΑΕ", "ÁÉÍÓÚÝáéíóúýĆćĹĺŃńŔŕŚśŹźǗǘǴǵǺǻǼǽǾǿΆΈ"⟩,
  ⟨0x301, "ΗΙΟΥΩϊαεηιϋουωГКгкÇçĒēÏïKkMmÕõŌōPpŨũ", "ΉΊΌΎΏΐάέήίΰόύώЃЌѓќḈḉḖḗḮḯḰḱḾḿṌṍṒṓṔṕṸṹ"⟩,
  ⟨0x301, "WwÂâĂăÊêÔôƠơƯưἀἁἈἉἐἑἘἙἠἡἨἩἰἱἸἹὀὁὈὉὐὑ", "ẂẃẤấẮắẾếỐốỚớỨứἄἅἌἍἔἕἜἝἤἥἬἭἴἵἼἽὄὅὌὍὔὕ"⟩,
  ⟨0x301, "ὙὠὡὨὩ", "ὝὤὥὬὭ"⟩,
  ⟨0x302, "AEIOUaeiouCcGgHhJjSsWwYyZzẠạẸẹỌọ", "ÂÊÎÔÛâêîôûĈĉĜĝĤĥĴĵŜŝŴŵŶŷẐẑẬậỆệỘộ"⟩,
  ⟨0x303, "ANOanoIiUuVvÂâĂăEeÊêÔôƠơƯưYy", "ÃÑÕãñõĨĩŨũṼṽẪẫẴẵẼẽỄễỖỗỠỡỮữỸỹ"⟩,
  ⟨0x304, "AaEeIiOoUuÜüÄäȦȧÆæǪǫÖöÕõȮȯYyИиУуGgḶḷ", "ĀāĒēĪīŌōŪūǕǖǞǟǠǡǢǣǬǭȪȫȬȭȰȱȲȳӢӣӮӯḠḡḸḹ"⟩,
  ⟨0x304, "ṚṛαΑιΙυΥ", "ṜṝᾱᾹῑῙῡῩ"⟩,
  ⟨0x306, "AaEeGgIiOoUuУИиуЖжАаЕеȨȩẠạαΑιΙυΥ", "ĂăĔĕĞğĬĭŎŏŬŭЎЙйўӁӂӐӑӖӗḜḝẶặᾰᾸῐῘῠῨ"⟩,
  ⟨0x307, "CcEeGgIZzAaOoBbDdFfHhMmNnPpRrSsŚśŠšṢ", "ĊċĖėĠġİŻżȦȧȮȯḂḃḊḋḞḟḢḣṀṁṄṅṖṗṘṙṠṡṤṥṦṧṨ"⟩,
  ⟨0x307, "ṣTtWwXxYy", "ṩṪṫẆẇẊẋẎẏ"⟩,
  ⟨0x308, "AEIOUaeiouyYΙΥιυЕІеіАаӘәЖжЗзИиОоӨөЭэ", "ÄËÏÖÜäëïöüÿŸΪΫϊϋЁЇёїӒӓӚӛӜӝӞӟӤӥӦӧӪӫӬӭ"⟩,
  ⟨0x308, "УуЧчЫыHhÕõŪūWwXxt", "ӰӱӴӵӸӹḦḧṎṏṺṻẄẅẌẍẗ"⟩,
  ⟨0x309, "AaÂâĂăEeÊêIiOoÔôƠơUuƯưYy", "ẢảẨẩẲẳẺẻỂểỈỉỎỏỔổỞởỦủỬửỶỷ"⟩, ⟨0x30a, "AaUuwy", "ÅåŮůẘẙ"⟩,
  ⟨0x30b, "OoUuУу", "ŐőŰűӲӳ"⟩,
  ⟨0x30c, "CcDdEeLlNnRrSsTtZzAaIiOoUuÜüGgKkƷʒjH", "ČčĎďĚěĽľŇňŘřŠšŤťŽžǍǎǏǐǑǒǓǔǙǚǦǧǨǩǮǯǰȞ"⟩,
  ⟨0x30c, "h", "ȟ"⟩, ⟨0x30f, "AaEeIiOoRrUuѴѵ", "ȀȁȄȅȈȉȌȍȐȑȔȕѶѷ"⟩,
  ⟨0x311, "AaEeIiOoRrUu", "ȂȃȆȇȊȋȎȏȒȓȖȗ"⟩, ⟨0x313, "αΑεΕηΗιΙοΟυωΩρ", "ἀἈἐἘἠἨἰἸὀὈὐὠὨῤ"⟩,
  ⟨0x314, "αΑεΕηΗιΙοΟυΥωΩρΡ", "ἁἉἑἙἡἩἱἹὁὉὑὙὡὩῥῬ"⟩, ⟨0x31b, "OoUu", "ƠơƯư"⟩,
  ⟨0x323, "BbDdHhKkLlMmNnRrSsTtVvWwZzAaEeIiOoƠơ", "ḄḅḌḍḤḥḲḳḶḷṂṃṆṇṚṛṢṣṬṭṾṿẈẉẒẓẠạẸẹỊịỌọỢợ"⟩,
  ⟨0x323, "UuƯưYy", "ỤụỰựỴỵ"⟩, ⟨0x324, "Uu", "Ṳṳ"⟩, ⟨0x325, "Aa", "Ḁḁ"⟩, ⟨0x326, "SsTt", "ȘșȚț"⟩,
  ⟨0x327, "CcGgKkLlNnRrSsTtEeDdHh", "ÇçĢģĶķĻļŅņŖŗŞşŢţȨȩḐḑḨḩ"⟩, ⟨0x328, "AaEeIiUuOo", "ĄąĘęĮįŲųǪǫ"⟩,
  ⟨0x32d, "DdEeLlNnTtUu", "ḒḓḘḙḼḽṊṋṰṱṶṷ"⟩, ⟨0x32e, "Hh", "Ḫḫ"⟩, ⟨0x330, "EeIiUu", "ḚḛḬḭṴṵ"⟩,
  ⟨0x331, "BbDdKkLlNnRrTtZzh", "ḆḇḎḏḴḵḺḻṈṉṞṟṮṯẔẕẖ"⟩,
  ⟨0x342, "ἀἁἈἉἠἡἨἩἰἱἸἹὐὑὙὠὡὨὩαηιϊυϋω", "ἆἇἎἏἦἧἮἯἶἷἾἿὖὗὟὦὧὮὯᾶῆῖῗῦῧῶ"⟩,
  ⟨0x345, "ἀἁἂἃἄἅἆἇἈἉἊἋἌἍἎἏἠἡἢἣἤἥἦἧἨἩἪἫἬἭἮἯὠὡὢὣ", "ᾀᾁᾂᾃᾄᾅᾆᾇᾈᾉᾊᾋᾌᾍᾎᾏᾐᾑᾒᾓᾔᾕᾖᾗᾘᾙᾚᾛᾜᾝᾞᾟᾠᾡᾢᾣ"⟩,
  ⟨0x345, "ὤὥὦὧὨὩὪὫὬὭὮὯὰαάᾶΑὴηήῆΗὼωώῶΩ", "ᾤᾥᾦᾧᾨᾩᾪᾫᾬᾭᾮᾯᾲᾳᾴᾷᾼῂῃῄῇῌῲῳῴῷῼ"⟩, ⟨0x653, "ا", "آ"⟩,
  ⟨0x654, "اويەہے", "أؤئۀۂۓ"⟩, ⟨0x655, "ا", "إ"⟩, ⟨0x93c, "नरळ", "ऩऱऴ"⟩,
  ⟨0x9be, "\u09c7", "\u09cb"⟩, ⟨0x9d7, "\u09c7", "\u09cc"⟩, ⟨0xb3e, "\u0b47", "\u0b4b"⟩,
  ⟨0xb56, "\u0b47", "\u0b48"⟩, ⟨0xb57, "\u0b47", "\u0b4c"⟩, ⟨0xbbe, "\u0bc6\u0bc7", "\u0bca\u0bcb"⟩,
  ⟨0xbd7, "ஒ\u0bc6", "ஔ\u0bcc"⟩, ⟨0xc56, "\u0c46", "\u0c48"⟩, ⟨0xcc2, "\u0cc6", "\u0cca"⟩,
  ⟨0xcd5, "\u0cbf\u0cc6\u0cca", "\u0cc0\u0cc7\u0ccb"⟩, ⟨0xcd6, "\u0cc6", "\u0cc8"⟩,
  ⟨0xd3e, "\u0d46\u0d47", "\u0d4a\u0d4b"⟩, ⟨0xd57, "\u0d46", "\u0d4c"⟩,
  ⟨0xdca, "\u0dd9\u0ddc", "\u0dda\u0ddd"⟩, ⟨0xdcf, "\u0dd9", "\u0ddc"⟩, ⟨0xddf, "\u0dd9", "\u0dde"⟩,
  ⟨0x102e, "ဥ", "ဦ"⟩,
  ⟨0x1b35, "ᬅᬇᬉᬋᬍᬑ\u1b3a\u1b3c\u1b3e\u1b3f\u1b42", "ᬆᬈᬊᬌᬎᬒ\u1b3b\u1b3d\u1b40\u1b41\u1b43"⟩,
  ⟨0x3099, "かきくけこさしすせそたちつてとはひふへほうゝカキクケコサシスセソタチツテ", "がぎぐげござじずぜぞだぢづでどばびぶべぼゔゞガギグゲゴザジズゼゾダヂヅデ"⟩,
  ⟨0x3099, "トハヒフヘホウワヰヱヲヽ", "ドバビブベボヴヷヸヹヺヾ"⟩, ⟨0x309a, "はひふへほハヒフヘホ", "ぱぴぷぺぽパピプペポ"⟩,
  ⟨0x110ba, "𑂙𑂛𑂥", "𑂚𑂜𑂫"⟩, ⟨0x11127, "𑄱𑄲", "𑄮𑄯"⟩, ⟨0x1133e, "𑍇", "𑍋"⟩, ⟨0x11357, "𑍇", "𑍌"⟩,
  ⟨0x114b0, "𑒹", "𑒼"⟩, ⟨0x114ba, "𑒹", "𑒻"⟩, ⟨0x114bd, "𑒹", "𑒾"⟩, ⟨0x115af, "𑖸𑖹", "𑖺𑖻"⟩,
  ⟨0x11930, "𑤵", "𑤸"⟩]

/-- Marks and the classes that order them: two digits for a class and ten for a range. -/
def markClasses : List (Nat × Nat × Nat) :=
  (cells 48 7 [
    0x010033400338_0101cd401cd4_0101ce201ce8_01020d2020d3_01020d8020da_01020e5020e6_01020ea020eb,
    0x0110a3910a39_0116af016af4_011bc9e1bc9e_011d1671d169_0616ff016ff1_070093c0093c_07009bc009bc,
    0x0700a3c00a3c_0700abc00abc_0700b3c00b3c_0700c3c00c3c_0700cbc00cbc_070103701037_0701b3401b34,
    0x0701be601be6_0701c3701c37_070a9b30a9b3_07110ba110ba_071117311173_07111ca111ca_071123611236,
    0x07112e9112e9_071133b1133c_071144611446_07114c3114c3_07115c0115c0_07116b7116b7_071183a1183a,
    0x071194311943_0711d4211d42_071e94a1e94a_08030990309a_090094d0094d_09009cd009cd_0900a4d00a4d,
    0x0900acd00acd_0900b4d00b4d_0900bcd00bcd_0900c4d00c4d_0900ccd00ccd_0900d3b00d3c_0900d4d00d4d,
    0x0900dca00dca_0900e3a00e3a_0900eba00eba_0900f8400f84_09010390103a_090171401715_090173401734,
    0x09017d2017d2_0901a6001a60_0901b4401b44_0901baa01bab_0901bf201bf3_0902d7f02d7f_090a8060a806,
    0x090a82c0a82c_090a8c40a8c4_090a9530a953_090a9c00a9c0_090aaf60aaf6_090abed0abed_0910a3f10a3f,
    0x091104611046_091107011070_091107f1107f_09110b9110b9_091113311134_09111c0111c0_091123511235,
    0x09112ea112ea_091134d1134d_091144211442_09114c2114c2_09115bf115bf_091163f1163f_09116b6116b6,
    0x091172b1172b_091183911839_091193d1193e_09119e0119e0_0911a3411a34_0911a4711a47_0911a9911a99,
    0x0911c3f11c3f_0911d4411d45_0911d9711d97_0a005b0005b0_0b005b1005b1_0c005b2005b2_0d005b3005b3,
    0x0e005b4005b4_0f005b5005b5_10005b6005b6_11005b7005b7_12005b8005b8_12005c7005c7_13005b9005ba,
    0x14005bb005bb_15005bc005bc_16005bd005bd_17005bf005bf_18005c1005c1_19005c2005c2_1a0fb1e0fb1e,
    0x1b0064b0064b_1b008f0008f0_1c0064c0064c_1c008f1008f1_1d0064d0064d_1d008f2008f2_1e0061800618,
    0x1e0064e0064e_1f0061900619_1f0064f0064f_200061a0061a_200065000650_210065100651_220065200652,
    0x230067000670_240071100711_5400c5500c55_5b00c5600c56_6700e3800e39_6b00e4800e4b_7600eb800eb9,
    0x7a00ec800ecb_8100f7100f71_8200f7200f72_8200f7a00f7d_8200f8000f80_8400f7400f74_ca0032100322,
    0xca0032700328_ca01dd001dd0_d601dce01dce_d80031b0031b_d800f3900f39_d81d1651d166_d81d16e1d172,
    0xda01dfa01dfa_da0302a0302a_dc0031600319_dc0031c00320_dc0032300326_dc0032900333_dc003390033c,
    0xdc0034700349_dc0034d0034e_dc0035300356_dc003590035a_dc0059100591_dc0059600596_dc0059b0059b,
    0xdc005a2005a7_dc005aa005aa_dc005c5005c5_dc0065500656_dc0065c0065c_dc0065f0065f_dc006e3006e3,
    0xdc006ea006ea_dc006ed006ed_dc0073100731_dc0073400734_dc0073700739_dc0073b0073c_dc0073e0073e,
    0xdc0074200742_dc0074400744_dc0074600746_dc0074800748_dc007f2007f2_dc007fd007fd_dc008590085b,
    0xdc008990089b_dc008cf008d3_dc008e3008e3_dc008e6008e6_dc008e9008e9_dc008ed008ef_dc008f6008f6,
    0xdc008f9008fa_dc0095200952_dc00f1800f19_dc00f3500f35_dc00f3700f37_dc00fc600fc6_dc0108d0108d,
    0xdc0193b0193b_dc01a1801a18_dc01a7f01a7f_dc01ab501aba_dc01abd01abd_dc01abf01ac0_dc01ac301ac4,
    0xdc01aca01aca_dc01b6c01b6c_dc01cd501cd9_dc01cdc01cdf_dc01ced01ced_dc01dc201dc2_dc01dca01dca,
    0xdc01dcf01dcf_dc01df901df9_dc01dfd01dfd_dc01dff01dff_dc020e8020e8_dc020ec020ef_dc0a92b0a92d,
    0xdc0aab40aab4_dc0fe270fe2d_dc101fd101fd_dc102e0102e0_dc10a0d10a0d_dc10a3a10a3a_dc10ae610ae6,
    0xdc10f4610f47_dc10f4b10f4b_dc10f4d10f50_dc10f8310f83_dc10f8510f85_dc1d17b1d182_dc1d18a1d18b,
    0xdc1e8d01e8d6_de0059a0059a_de005ad005ad_de0193901939_de0302d0302d_e00302e0302f_e21d16d1d16d,
    0xe4005ae005ae_e4018a9018a9_e401df701df8_e40302b0302b_e60030000314_e60033d00344_e60034600346,
    0xe60034a0034c_e60035000352_e60035700357_e60035b0035b_e6003630036f_e60048300487_e60059200595,
    0xe60059700599_e60059c005a1_e6005a8005a9_e6005ab005ac_e6005af005af_e6005c4005c4_e60061000617,
    0xe60065300654_e6006570065b_e60065d0065e_e6006d6006dc_e6006df006e2_e6006e4006e4_e6006e7006e8,
    0xe6006eb006ec_e60073000730_e60073200733_e60073500736_e60073a0073a_e60073d0073d_e60073f00741,
    0xe60074300743_e60074500745_e60074700747_e6007490074a_e6007eb007f1_e6007f3007f3_e60081600819,
    0xe60081b00823_e60082500827_e6008290082d_e60089800898_e60089c0089f_e6008ca008ce_e6008d4008e1,
    0xe6008e4008e5_e6008e7008e8_e6008ea008ec_e6008f3008f5_e6008f7008f8_e6008fb008ff_e60095100951,
    0xe60095300954_e6009fe009fe_e600f8200f83_e600f8600f87_e60135d0135f_e6017dd017dd_e60193a0193a,
    0xe601a1701a17_e601a7501a7c_e601ab001ab4_e601abb01abc_e601ac101ac2_e601ac501ac9_e601acb01ace,
    0xe601b6b01b6b_e601b6d01b73_e601cd001cd2_e601cda01cdb_e601ce001ce0_e601cf401cf4_e601cf801cf9,
    0xe601dc001dc1_e601dc301dc9_e601dcb01dcc_e601dd101df5_e601dfb01dfb_e601dfe01dfe_e6020d0020d1,
    0xe6020d4020d7_e6020db020dc_e6020e1020e1_e6020e7020e7_e6020e9020e9_e6020f0020f0_e602cef02cf1,
    0xe602de002dff_e60a66f0a66f_e60a6740a67d_e60a69e0a69f_e60a6f00a6f1_e60a8e00a8f1_e60aab00aab0,
    0xe60aab20aab3_e60aab70aab8_e60aabe0aabf_e60aac10aac1_e60fe200fe26_e60fe2e0fe2f_e6103761037a,
    0xe610a0f10a0f_e610a3810a38_e610ae510ae5_e610d2410d27_e610eab10eac_e610f4810f4a_e610f4c10f4c,
    0xe610f8210f82_e610f8410f84_e61110011102_e6113661136c_e61137011374_e61145e1145e_e616b3016b36,
    0xe61d1851d189_e61d1aa1d1ad_e61d2421d244_e61e0001e006_e61e0081e018_e61e01b1e021_e61e0231e024,
    0xe61e0261e02a_e61e1301e136_e61e2ae1e2ae_e61e2ec1e2ef_e61e9441e949_e80031500315_e80031a0031a,
    0xe80035800358_e801df601df6_e80302c0302c_e90035c0035c_e90035f0035f_e90036200362_e901dfc01dfc,
    0xea0035d0035e_ea0036000361_ea01dcd01dcd_f00034500345]).map fun cell =>
      (cell >>> 40, (cell >>> 20) % 0x100000, cell % 0x100000)

/-- The letters of a syllable of Hangul. -/
def syllableParts (n : Nat) : List Char :=
  let place := n - 0xac00
  let last := if place % 28 == 0 then [] else [Char.ofNat (0x11a7 + place % 28)]
  Char.ofNat (0x1100 + place / 588) :: Char.ofNat (0x1161 + place % 588 / 28) :: last

/-- What a character of the block stands for. -/
def FormBlock.image? (block : FormBlock) (n : Nat) : Option (List Char) :=
  let width := block.images.length / (block.last + 1 - block.first)
  match ((block.images.toList.drop ((n - block.first) * width)).take width).filter (· != ' ') with
  | [] => none
  | image => some image

/-- The characters that another stands for. -/
def form? (n : Nat) : Option (List Char) :=
  ((CaseRun.image? formRuns n).map fun image => [Char.ofNat image]).or <|
    (formBlocks.find? fun block => block.first ≤ n && n ≤ block.last).bind fun block =>
      block.image? n

/-- A letter with a mark taken apart. -/
def marked? (c : Char) : Option (Char × Char) :=
  markedLetters.findSome? fun entry => do
    let place ← entry.images.toList.idxOf? c
    return (← entry.letters.toList[place]?, Char.ofNat entry.mark)

/-- A letter and its marks, of which there are at most `most`. -/
def unmarked : Nat → Char → List Char
  | 0, c => [c]
  | most + 1, c => (marked? c).elim [c] fun (letter, mark) => unmarked most letter ++ [mark]

/-- The characters that a character stands for. -/
def parts (c : Char) : List Char :=
  let n := c.toNat
  if n < 0x80 then [c]
  else if 0xac00 ≤ n && n ≤ 0xd7a3 then syllableParts n
  else (form? n).getD (unmarked 3 c)

/-- The class of a mark; none of other characters. -/
def markClass (c : Char) : Nat :=
  if c.toNat < 0x300 then 0
  else ((markClasses.find? fun entry => Ranges.has [entry.2] c).map Prod.fst).getD 0

/-- Puts a character in front of the first one that is no mark of a lower class. -/
def insertMark (c : Char) : List Char → List Char
  | [] => [c]
  | next :: rest =>
    if markClass next != 0 && markClass next < markClass c then next :: insertMark c rest
    else c :: next :: rest

/-- Every run of marks in the order of their classes. -/
def orderMarks (text : List Char) : List Char := text.foldr insertMark []

/-- Two characters put together; an underscore takes nothing. -/
def together? (first second : Char) : Option Char :=
  let n := first.toNat
  let m := second.toNat
  if m < 0x300 || first == '_' then none
  else if 0x1100 ≤ n && n < 0x1113 && 0x1161 ≤ m && m < 0x1176 then
    some (Char.ofNat (0xac00 + ((n - 0x1100) * 21 + (m - 0x1161)) * 28))
  else if 0xac00 ≤ n && n ≤ 0xd7a3 && (n - 0xac00) % 28 == 0 && 0x11a7 < m && m < 0x11c3 then
    some (Char.ofNat (n + (m - 0x11a7)))
  else
    markedLetters.findSome? fun entry =>
      if entry.mark == m then do entry.images.toList[← entry.letters.toList.idxOf? first]?
      else none

/-- Puts characters together. `kept` holds, in reverse, the marks behind a letter that it did not
take; the letter takes a mark past marks of lower classes only. -/
def joinMarks (letter : Char) (kept : List Char) : List Char → List Char
  | [] => letter :: kept.reverse
  | c :: rest =>
    let reaches := kept.head?.all fun mark => markClass mark < markClass c
    match if reaches then together? letter c else none with
    | some whole => joinMarks whole kept rest
    | none =>
      if markClass c == 0 then letter :: kept.reverse ++ joinMarks c [] rest
      else joinMarks letter (c :: kept) rest

/-- Puts characters together from the first letter on. -/
def joined : List Char → List Char
  | [] => []
  | c :: rest => if markClass c == 0 then joinMarks c [] rest else c :: joined rest

/-- The normal form of a name. -/
def normalForm (text : List Char) : List Char := joined (orderMarks (text.flatMap parts))

end Blueprint.Text
