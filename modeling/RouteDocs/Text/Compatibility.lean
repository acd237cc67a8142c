import RouteDocs.Text.Letter

/-! # Compatibility composition -/

namespace RouteDocs.Text
def movedRuns : List (Nat × Nat × Int) := [
  (12602,12607,-8074),(12613,12622,-8252),(12623,12643,-8174),(65313,65338,-65248),
  (65345,65370,-65248),(65413,65418,-52923),(65430,65435,-52910),(65450,65455,-60922),
  (65461,65470,-61100),(65474,65479,-61025),(65482,65487,-61027),(65490,65495,-61029)]

/-- Alphabets that follow one another in other styles. -/
def alphabets : List (Nat × Nat × String) := [
  (119808,120483,"ABCDEFGHIJKLMNOPQRSTUVWXYZabcdefghijklmnopqrstuvwxyz"),
  (120488,120777,"ΑΒΓΔΕΖΗΘΙΚΛΜΝΞΟΠΡΘΣΤΥΦΧΨΩ∇αβγδεζηθικλμνξοπρςστυφχψω∂εθκφρπ"),
  (120782,120831,"0123456789"),(126464,126651,"ابجدهوزحطيكلمنسعفصقرشتثخذضظغٮںڡٯ")]

def charReplacements : List (Nat × String) := [
  (170,"a"),(181,"μ"),(186,"o"),(383,"s"),(688,"hɦjrɹɻʁwy"),(736,"ɣlsxʕ"),(832,"̀́"),(835,"̓"),
  (884,"ʹ"),(903,"·"),(976,"βθΥΎΫφπ"),(1008,"κρς"),(1012,"Θε"),(1017,"Σ"),(4348,"ნ"),(7468,"AÆB"),
  (7472,"DEƎGHIJKLMN"),(7484,"OȢPRTUWaɐɑᴂbdeəɛɜg"),(7503,"kmŋoɔᴖᴗptuᴝɯvᴥβγδφχiruvβγρφχ"),(7544,"н"),
  (7579,"ɒcɕðɜfɟɡɥɨɩɪᵻʝɭᶅʟɱɰɲɳɴɵɸʂʃƫʉʊᴜʋʌzʐʑʒθ"),(7835,"ṡ"),(8049,"ά"),(8051,"έ"),(8053,"ή"),
  (8055,"ί"),(8057,"ό"),(8059,"ύ"),(8061,"ώ"),(8123,"Ά"),(8126,"ι"),(8137,"Έ"),(8139,"Ή"),
  (8147,"ΐ"),(8155,"Ί"),(8163,"ΰ"),(8171,"Ύ"),(8185,"Ό"),(8187,"Ώ"),(8305,"i"),(8319,"n"),
  (8336,"aeoxəhklmnpst"),(8450,"C"),(8455,"Ɛ"),(8458,"gHHHhħIILl"),(8469,"N"),(8473,"PQRRR"),
  (8484,"Z"),(8486,"Ω"),(8488,"Z"),(8490,"KÅBC"),(8495,"eEF"),(8499,"Moאבגדi"),(8508,"πγΓΠ"),
  (8517,"Ddeij"),(8544,"I"),(8548,"V"),(8553,"X"),(8556,"LCDMi"),(8564,"v"),(8569,"x"),
  (8572,"lcdm"),(11388,"jV"),(11631,"ⵡ"),(12344,"十卄卅"),(12593,"ᄀᄁᆪᄂᆬᆭᄃᄄᄅ"),(12608,"ᄚᄆᄇᄈᄡ"),
  (12644,"ᅠᄔᄕᇇᇈᇌᇎᇓᇗᇙᄜᇝᇟᄝᄞᄠᄢᄣᄧᄩᄫᄬᄭᄮᄯᄲᄶᅀᅇᅌᇱᇲᅗᅘᅙᆄᆅᆈᆑᆒᆔᆞᆡ"),(42652,"ъь"),(42864,"ꝯ"),(42994,"CFQ"),
  (43000,"Ħœ"),(43868,"ꜧꬷɫꭒ"),(43881,"ʍ"),
  (63744,"豈更車賈滑串句龜龜契金喇奈懶癩羅蘿螺裸邏樂洛烙珞落酪駱亂卵欄爛蘭鸞嵐濫藍襤拉臘蠟廊朗浪狼郎來冷勞擄櫓爐盧老蘆虜路露魯鷺碌祿綠菉錄鹿論壟弄籠聾牢磊賂雷壘屢樓淚漏累縷陋勒肋凜"),
  (63829,"凌稜綾菱陵讀拏樂諾丹寧怒率異北磻便復不泌數索參塞省葉說殺辰沈拾若掠略亮兩凉梁糧良諒量勵呂女廬旅濾礪閭驪麗黎力曆歷轢年憐戀撚漣煉璉秊練聯輦蓮連鍊列劣咽烈裂說廉念捻殮簾獵令囹"),
  (63914,"寧嶺怜玲瑩羚聆鈴零靈領例禮醴隸惡了僚寮尿料樂燎療蓼遼龍暈阮劉杻柳流溜琉留硫紐類六戮陸倫崙淪輪律慄栗率隆利吏履易李梨泥理痢罹裏裡里離匿溺吝燐璘藺隣鱗麟林淋臨立笠粒狀炙識什茶"),
  (63999,"刺切度拓糖宅洞暴輻行降見廓兀嗀"),(64016,"塚"),(64018,"晴"),(64021,"凞猪益礼神祥福靖精羽"),(64032,"蘒"),(64034,"諸"),
  (64037,"逸都"),(64042,"飯飼館鶴郞隷侮僧免勉勤卑喝嘆器塀墨層屮悔慨憎懲敏既暑梅海渚漢煮爫琢碑社祉祈祐祖祝禍禎穀突節練縉繁署者臭艹艹著褐視謁謹賓贈辶逸難響頻恵𤋮舘"),
  (64112,"並况全侀充冀勇勺喝啕喙嗢塚墳奄奔婢嬨廒廙彩徭惘慎愈憎慠懲戴揄搜摒敖晴朗望杖歹殺流滛滋漢瀞煮瞧爵犯猪瑱甆画瘝瘟益盛直睊着磌窱節类絛練缾者荒華蝹襁覆視調諸請謁諾諭謹變贈輸遲醙"),
  (64197,"鉶陼難靖韛響頋頻鬒龜𢡊𢡄𣏕㮝䀘䀹𥉉𥳐𧻓齃龎"),(64288,"עאדהכלםרת"),
  (64336,"ٱٱٻٻٻٻپپپپڀڀڀڀٺٺٺٺٿٿٿٿٹٹٹٹڤڤڤڤڦڦڦڦڄڄڄڄڃڃڃڃچچچچڇڇڇڇڍڍڌڌڎڎڈڈژژڑڑککککگگگگڳڳڳڳڱڱڱڱںںڻڻڻڻۀ"),
  (64421,"ۀہہہہھھھھےےۓۓ"),(64467,"ڭڭڭڭۇۇۆۆۈۈ"),(64478,"ۋۋۅۅۉۉېېېېىى"),(64508,"یییی"),(65075,"__"),
  (65101,"___"),
  (65152,"ءآآأأؤؤإإئئئئااببببةةتتتتثثثثججججححححخخخخددذذررززسسسسششششصصصصضضضضططططظظظظععععغغغغفففف"),
  (65237,"ققققككككللللممممننننههههووىىيييي"),(65296,"0123456789"),(65343,"_"),
  (65382,"ヲァィゥェォャュョッーアイウエオカキクケコサシスセソタチツテト"),(65419,"ヒフヘホマミムメモヤユ"),(65436,"ワン゙゚ᅠᄀᄁᆪᄂᆬᆭᄃᄄᄅ"),
  (65456,"ᄚᄆᄇᄈᄡ"),(65498,"ᅳᅴᅵ"),(67457,"ːˑæʙɓ"),
  (67463,"ʣꭦʥʤɖɗᶑɘɞʩɤɢɠʛħʜɧʄʪʫɬ𝼄ꞎɮ𝼅ʎ𝼆øɶɷqɺ𝼈ɽɾʀʨʦꭧʧʈⱱ"),(67506,"ʏʡʢʘǀǁǂ𝼊𝼞"),(120484,"ıȷ"),
  (120778,"Ϝϝ"),(130032,"0123456789"),
  (194560,"丽丸乁𠄢你侮侻倂偺備僧像㒞𠘺免兔兤具𠔜㒹內再𠕋冗冤仌冬况𩇟凵刃㓟刻剆割剷㔕勇勉勤勺包匆北卉卑博即卽卿卿卿𠨬灰及叟𠭣叫叱吆咞吸呈周咢哶唐啓啣善善喙喫喳嗂圖嘆圗噑噴切壮城埴堍"),
  (194645,"型堲報墬𡓤売壷夆多夢奢𡚨𡛪姬娛娧姘婦㛮㛼嬈嬾嬾𡧈寃寘寧寳𡬘寿将当尢㞁屠屮峀岍𡷤嵃𡷦嵮嵫嵼巡巢㠯巽帨帽幩㡢𢆃㡼庰庳庶廊𪎒廾𢌱𢌱舁弢弢㣇𣊸𦇚形彫㣣徚忍志忹悁㤺㤜悔𢛔惇慈慌慎慌"),
  (194730,"慺憎憲憤憯懞懲懶成戛扝抱拔捐𢬌挽拼捨掃揤𢯱搢揅掩㨮摩摾撝摷㩬敏敬𣀊旣書晉㬙暑㬈㫤冒冕最暜肭䏙朗望朡杞杓𣏃㭉柺枅桒梅𣑭梎栟椔㮝楂榣槪檨𣚣櫛㰘次𣢧歔㱎歲殟殺殻𣪍𡴋𣫺汎𣲼沿泍汧"),
  (194815,"洖派海流浩浸涅𣴞洴港湮㴳滋滇𣻑淹潮𣽞𣾎濆瀹瀞瀛㶖灊災灷炭𠔥煅𤉣熜𤎫爨爵牐𤘈犀犕𤜵𤠔獺王㺬玥㺸㺸瑇瑜瑱璅瓊㼛甤𤰶甾𤲒異𢆟瘐𤾡𤾸𥁄㿼䀈直𥃳𥃲𥄙𥄳眞真真睊䀹瞋䁆䂖𥐝硎碌磌䃣𥘦祖"),
  (194900,"𥚚𥛅福秫䄯穀穊穏𥥼𥪧𥪧竮䈂𥮫篆築䈧𥲀糒䊠糨糣紀𥾆絣䌁緇縂繅䌴𦈨𦉇䍙𦋙罺𦌾羕翺者𦓚𦔣聠𦖨聰𣍟䏕育脃䐋脾媵𦞧𦞵𣎓𣎜舁舄辞䑫芑芋芝劳花芳芽苦𦬼若茝荣莭茣莽菧著荓菊菌菜𦰶𦵫𦳕䔫蓱"),
  (194985,"蓳蔖𧏊蕤𦼬䕝䕡𦾱𧃒䕫虐虜虧虩蚩蚈蜎蛢蝹蜨蝫螆䗗蟡蠁䗹衠衣𧙧裗裞䘵裺㒻𧢮𧥦䚾䛇誠諭變豕𧲨貫賁贛起𧼯𠠄跋趼跰𠣞軔輸𨗒𨗭邔郱鄑𨜮鄛鈸鋗鋘鉼鏹鐕𨯺開䦕閷𨵷䧦雃嶲霣𩅅𩈚䩮䩶韠𩐊䪲𩒖"),
  (195070,"頋頋頩𩖶飢䬳餩馧駂駾䯎𩬰鬒鱀鳽䳎䳭鵧𪃎䳸𪄅𪈎𪊑麻䵖黹黾鼅鼏鼖鼻𪘀")]

def wordReplacements : List (Nat × String) := [
  (306,"IJ ij"),(319,"L· l·"),(329,"ʼn"),(452,"DŽ Dž dž LJ Lj lj NJ Nj nj"),(497,"DZ Dz dz"),
  (836,"̈́"),(1415,"եւ"),(1653,"اٴ وٴ ۇٴ يٴ"),(2392,"क़ ख़ ग़ ज़ ड़ ढ़ फ़ य़"),(2524,"ড় ঢ়"),
  (2527,"য়"),(2611,"ਲ਼"),(2614,"ਸ਼"),(2649,"ਖ਼ ਗ਼ ਜ਼"),(2654,"ਫ਼"),(2908,"ଡ଼ ଢ଼"),(3635,"ํา"),
  (3763,"ໍາ"),(3804,"ຫນ ຫມ"),(3907,"གྷ"),(3917,"ཌྷ"),(3922,"དྷ"),(3927,"བྷ"),(3932,"ཛྷ"),
  (3945,"ཀྵ"),(3955,"ཱི"),(3957,"ཱུ ྲྀ ྲཱྀ ླྀ ླཱྀ"),(3969,"ཱྀ"),(3987,"ྒྷ"),(3997,"ྜྷ"),
  (4002,"ྡྷ"),(4007,"ྦྷ"),(4012,"ྫྷ"),(4025,"ྐྵ"),(7834,"aʾ"),(8545,"II III IV"),
  (8549,"VI VII VIII IX"),(8554,"XI XII"),(8561,"ii iii iv"),(8565,"vi vii viii ix"),
  (8570,"xi xii"),(12447,"より"),(12543,"コト"),(64256,"ff fi fl ffi ffl st st"),
  (64275,"մն մե մի վն մխ"),(64285,"יִ"),(64287,"ײַ"),
  (64298,"שׁ שׂ שּׁ שּׂ אַ אָ אּ בּ גּ דּ הּ וּ זּ"),(64312,"טּ יּ ךּ כּ לּ"),(64318,"מּ"),
  (64320,"נּ סּ"),(64323,"ףּ פּ"),(64326,"צּ קּ רּ שּ תּ וֹ בֿ כֿ פֿ אל"),(64477,"ۇٴ"),
  (64490,"ئا ئا ئە ئە ئو ئو ئۇ ئۇ ئۆ ئۆ ئۈ ئۈ ئې ئې ئې ئى ئى ئى"),
  (64512,"ئج ئح ئم ئى ئي بج بح بخ بم بى بي تج تح تخ تم تى تي ثج ثم ثى ثي جح جم حج حم خج خح خم"),
  (64540,"سج سح سخ سم صح صم ضج ضح ضخ ضم طح طم ظم عج عم غج غم فج فح فخ فم فى في قح قم قى قي كا"),
  (64568,"كج كح كخ كل كم كى كي لج لح لخ لم لى لي مج مح مخ مم مى مي نج نح نخ نم نى ني هج هم هى"),
  (64596,"هي يج يح يخ يم يى يي ذٰ رٰ ىٰ"),
  (64612,"ئر ئز ئم ئن ئى ئي بر بز بم بن بى بي تر تز تم تن تى تي ثر ثز ثم ثن ثى ثي فى في قى قي"),
  (64640,"كا كل كم كى كي لم لى لي ما مم نر نز نم نن نى ني ىٰ ير يز يم ين يى يي ئج ئح ئخ ئم ئه"),
  (64668,"بج بح بخ بم به تج تح تخ تم ته ثم جح جم حج حم خج خم سج سح سخ سم صح صخ صم ضج ضح ضخ ضم"),
  (64696,"طح ظم عج عم غج غم فج فح فخ فم قح قم كج كح كخ كل كم لج لح لخ لم له مج مح مخ مم نج نح"),
  (64724,"نخ نم نه هج هم هٰ يج يح يخ يم يه ئم ئه بم به تم ته ثم ثه سم سه شم شه كل كم لم نم نه"),
  (64752,"يم يه ـَّ ـُّ ـِّ طى طي عى عي غى غي سى سي شى شي حى حي جى جي خى خي صى صي ضى ضي شج شح"),
  (64779,"شخ شم شر سر صر ضر طى طي عى عي غى غي سى سي شى شي حى حي جى جي خى خي صى صي ضى ضي شج شح"),
  (64807,"شخ شم شر سر صر ضر شج شح شخ شم سه شه طم سج سح سخ شج شح شخ طم ظم اً اً"),
  (64848,"تجم تحج تحج تحم تخم تمج تمح تمخ جمح جمح حمي حمى سحج سجح سجى سمح سمح سمج سمم سمم صحح"),
  (64869,"صحح صمم شحم شحم شجي شمخ شمخ شمم شمم ضحى ضخم ضخم طمح طمح طمم طمي عجم عمم عمم عمى غمم"),
  (64890,"غمي غمى فخم فخم قمح قمم لحم لحي لحى لجج لجج لخم لخم لمح لمح محج محم محي مجح مجم مخج"),
  (64911,"مخم"),
  (64914,"مجخ همج همم نحم نحى نجم نجم نجى نمي نمى يمم يمم بخي تجي تجى تخي تخى تمي تمى جمي جحى"),
  (64935,"جمى سخى صحي شحي ضحي لجي لمي يحي يجي يمي ممي قمي نحي قمح لحم عمي كمي نجح مخي لجم كمم"),
  (64956,"لجم نجح جحي حجي مجي فمي بحي كمم عجم صمم سخي نجي"),
  (65008,"صلے قلے الله اكبر محمد صلعم رسول عليه وسلم صلى"),(65137,"ـً"),(65143,"ـَ"),(65145,"ـُ"),
  (65147,"ـِ"),(65149,"ـّ"),(65151,"ـْ"),(65269,"لآ لآ لأ لأ لإ لإ لا لا")]

def composites : List (Nat × String) := [
  (768,"AÀEÈIÌOÒUÙaàeèiìoòuùÜǛüǜNǸnǹЕЀИЍеѐиѝĒḔēḕŌṐōṑWẀwẁÂẦâầĂẰăằÊỀêềÔỒôồƠỜơờƯỪưừYỲyỳ"),
  (768,"ἀἂἁἃἈἊἉἋἐἒἑἓἘἚἙἛἠἢἡἣἨἪἩἫἰἲἱἳἸἺἹἻὀὂὁὃὈὊὉὋὐὒὑὓὙὛὠὢὡὣὨὪὩὫαὰεὲηὴιὶοὸυὺωὼΑᾺΕῈΗῊ᾿῍"),
  (768,"ϊῒΙῚ῾῝ϋῢΥῪ¨῭ΟῸΩῺ"),
  (769,"AÁEÉIÍOÓUÚYÝaáeéiíoóuúyýCĆcćLĹlĺNŃnńRŔrŕSŚsśZŹzźÜǗüǘGǴgǵÅǺåǻÆǼæǽØǾøǿ¨΅ΑΆΕΈΗΉ"),
  (769,"ΙΊΟΌΥΎΩΏϊΐαάεέηήιίϋΰοόυύωώϒϓГЃКЌгѓкќÇḈçḉĒḖēḗÏḮïḯKḰkḱMḾmḿÕṌõṍŌṒōṓPṔpṕŨṸũṹWẂwẃ"),
  (769,"ÂẤâấĂẮăắÊẾêếÔỐôốƠỚơớƯỨưứἀἄἁἅἈἌἉἍἐἔἑἕἘἜἙἝἠἤἡἥἨἬἩἭἰἴἱἵἸἼἹἽὀὄὁὅὈὌὉὍὐὔὑὕὙὝὠὤὡὥὨὬ"),
  (769,"ὩὭ᾿῎῾῞"),(770,"AÂEÊIÎOÔUÛaâeêiîoôuûCĈcĉGĜgĝHĤhĥJĴjĵSŜsŝWŴwŵYŶyŷZẐzẑẠẬạậẸỆẹệỌỘọộ"),
  (771,"AÃNÑOÕaãnñoõIĨiĩUŨuũVṼvṽÂẪâẫĂẴăẵEẼeẽÊỄêễÔỖôỗƠỠơỡƯỮưữYỸyỹ"),
  (772,"AĀaāEĒeēIĪiīOŌoōUŪuūÜǕüǖÄǞäǟȦǠȧǡÆǢæǣǪǬǫǭÖȪöȫÕȬõȭȮȰȯȱYȲyȳИӢиӣУӮуӯGḠgḡḶḸḷḹṚṜṛṝ"),
  (772,"αᾱΑᾹιῑΙῙυῡΥῩ"),(774,"AĂaăEĔeĕGĞgğIĬiĭOŎoŏUŬuŭУЎИЙийуўЖӁжӂАӐаӑЕӖеӗȨḜȩḝẠẶạặαᾰΑᾸιῐΙῘυῠΥῨ"),
  (775,"CĊcċEĖeėGĠgġIİZŻzżAȦaȧOȮoȯBḂbḃDḊdḋFḞfḟHḢhḣMṀmṁNṄnṅPṖpṗRṘrṙSṠsṡŚṤśṥŠṦšṧṢṨṣṩTṪ"),
  (775,"tṫWẆwẇXẊxẋYẎyẏſẛ"),
  (776,"AÄEËIÏOÖUÜaäeëiïoöuüyÿYŸΙΪΥΫιϊυϋϒϔЕЁІЇеёіїАӒаӓӘӚәӛЖӜжӝЗӞзӟИӤиӥОӦоӧӨӪөӫЭӬэӭУӰ"),
  (776,"уӱЧӴчӵЫӸыӹHḦhḧÕṎõṏŪṺūṻWẄwẅXẌxẍtẗ"),
  (777,"AẢaảÂẨâẩĂẲăẳEẺeẻÊỂêểIỈiỉOỎoỏÔỔôổƠỞơởUỦuủƯỬưửYỶyỷ"),(778,"AÅaåUŮuůwẘyẙ"),
  (779,"OŐoőUŰuűУӲуӳ"),
  (780,"CČcčDĎdďEĚeěLĽlľNŇnňRŘrřSŠsšTŤtťZŽzžAǍaǎIǏiǐOǑoǒUǓuǔÜǙüǚGǦgǧKǨkǩƷǮʒǯjǰHȞhȟ"),
  (783,"AȀaȁEȄeȅIȈiȉOȌoȍRȐrȑUȔuȕѴѶѵѷ"),(785,"AȂaȃEȆeȇIȊiȋOȎoȏRȒrȓUȖuȗ"),
  (787,"αἀΑἈεἐΕἘηἠΗἨιἰΙἸοὀΟὈυὐωὠΩὨρῤ"),(788,"αἁΑἉεἑΕἙηἡΗἩιἱΙἹοὁΟὉυὑΥὙωὡΩὩρῥΡῬ"),(795,"OƠoơUƯuư"),
  (803,"BḄbḅDḌdḍHḤhḥKḲkḳLḶlḷMṂmṃNṆnṇRṚrṛSṢsṣTṬtṭVṾvṿWẈwẉZẒzẓAẠaạEẸeẹIỊiịOỌoọƠỢơợUỤuụ"),
  (803,"ƯỰưựYỴyỵ"),(804,"UṲuṳ"),(805,"AḀaḁ"),(806,"SȘsșTȚtț"),
  (807,"CÇcçGĢgģKĶkķLĻlļNŅnņRŖrŗSŞsşTŢtţEȨeȩDḐdḑHḨhḩ"),(808,"AĄaąEĘeęIĮiįUŲuųOǪoǫ"),
  (813,"DḒdḓEḘeḙLḼlḽNṊnṋTṰtṱUṶuṷ"),(814,"HḪhḫ"),(816,"EḚeḛIḬiḭUṴuṵ"),
  (817,"BḆbḇDḎdḏKḴkḵLḺlḻNṈnṉRṞrṟTṮtṯZẔzẕhẖ"),
  (824,"←↚→↛↔↮⇐⇍⇔⇎⇒⇏∃∄∈∉∋∌∣∤∥∦∼≁≃≄≅≇≈≉=≠≡≢≍≭<≮>≯≤≰≥≱≲≴≳≵≶≸≷≹≺⊀≻⊁⊂⊄⊃⊅⊆⊈⊇⊉⊢⊬⊨⊭⊩⊮⊫⊯≼⋠≽⋡"),
  (824,"⊑⋢⊒⋣⊲⋪⊳⋫⊴⋬⊵⋭"),(834,"ἀἆἁἇἈἎἉἏἠἦἡἧἨἮἩἯἰἶἱἷἸἾἹἿὐὖὑὗὙὟὠὦὡὧὨὮὩὯαᾶ¨῁ηῆ᾿῏ιῖϊῗ῾῟υῦϋῧωῶ"),
  (837,"ἀᾀἁᾁἂᾂἃᾃἄᾄἅᾅἆᾆἇᾇἈᾈἉᾉἊᾊἋᾋἌᾌἍᾍἎᾎἏᾏἠᾐἡᾑἢᾒἣᾓἤᾔἥᾕἦᾖἧᾗἨᾘἩᾙἪᾚἫᾛἬᾜἭᾝἮᾞἯᾟὠᾠὡᾡὢᾢὣᾣὤᾤὥᾥ"),
  (837,"ὦᾦὧᾧὨᾨὩᾩὪᾪὫᾫὬᾬὭᾭὮᾮὯᾯὰᾲαᾳάᾴᾶᾷΑᾼὴῂηῃήῄῆῇΗῌὼῲωῳώῴῶῷΩῼ"),(1619,"اآ"),(1620,"اأوؤيئەۀہۂےۓ"),
  (1621,"اإ"),(2364,"नऩरऱळऴ"),(2494,"েো"),(2519,"েৌ"),(2878,"େୋ"),(2902,"େୈ"),(2903,"େୌ"),
  (3006,"ெொேோ"),(3031,"ஒஔெௌ"),(3158,"ెై"),(3266,"ೆೊ"),(3285,"ಿೀೆೇೊೋ"),(3286,"ೆೈ"),(3390,"െൊേോ"),
  (3415,"െൌ"),(3530,"ෙේොෝ"),(3535,"ෙො"),(3551,"ෙෞ"),(4142,"ဥဦ"),(6965,"ᬅᬆᬇᬈᬉᬊᬋᬌᬍᬎᬑᬒᬺᬻᬼᬽᬾᭀᬿᭁᭂᭃ"),
  (12441,"かがきぎくぐけげこごさざしじすずせぜそぞただちぢつづてでとどはばひびふぶへべほぼうゔゝゞカガキギクグケゲコゴサザシジスズセゼソゾタダチヂツヅテデトドハバ"),
  (12441,"ヒビフブヘベホボウヴワヷヰヸヱヹヲヺヽヾ"),(12442,"はぱひぴふぷへぺほぽハパヒピフプヘペホポ"),(69818,"𑂙𑂚𑂛𑂜𑂥𑂫"),(69927,"𑄱𑄮𑄲𑄯"),
  (70462,"𑍇𑍋"),(70487,"𑍇𑍌"),(70832,"𑒹𑒼"),(70842,"𑒹𑒻"),(70845,"𑒹𑒾"),(71087,"𑖸𑖺𑖹𑖻"),(71984,"𑤵𑤸")]

def markClasses : List (Nat × List Nat) := runs.map fun (class_, table) => (class_, lengths table)
where
  runs : List (Nat × String) := [
  (1,"820e6555amg1001bdcjbcb59725a24758e20905a5320c"),(6,"94192b"),
  (7,"2364a127a127a127a127a255a127a890a2812a177a80a36219a26374a184a86a107a178a81b265a124a252a246" ++
    "a386a264a1022a52231a"),(8,"12441b"),
  (9,"2381a127a127a127a127a127a127a127a109bpa124a111a127a201a180b1753bDa157a653a227a101b70b4491a" ++
    "31366aKa151a142a108a309a246a24145a1542aOana57a121b139a116a180a98a244a127a252a127a118a116a26" ++
    "9a259b161a83ara81a421a260b81a"),(10,"1456a"),(11,"1457a"),(12,"1458a"),(13,"1459a"),
  (14,"1460a"),(15,"1461a"),(16,"1462a"),(17,"1463a"),(18,"1464ana"),(19,"1465b"),(20,"1467a"),
  (21,"1468a"),(22,"1469a"),(23,"1471a"),(24,"1473a"),(25,"1474a"),(26,"64286a"),(27,"1611a676a"),
  (28,"1612a676a"),(29,"1613a676a"),(30,"1560a53a"),(31,"1561a53a"),(32,"1562a53a"),(33,"1617a"),
  (34,"1618a"),(35,"1648a"),(36,"1809a"),(84,"3157a"),(91,"3158a"),(103,"3640b"),(107,"3656d"),
  (118,"3768b"),(122,"3784d"),(129,"3953a"),(130,"3954agdba"),(132,"3956a"),(202,"801bdb6823a"),
  (214,"7630a"),(216,"795a3101a115243bge"),(218,"7674a4655a"),
  (220,"790dbebdbkedjccbddbb566adadaffbaza143beaba131afaba67ababcabaacaaaaaaa169aja91c61cYeoabab" ++
    "accfabb87a1477bAaaa142a198a2221a220a102a53fbaabbbea161a360ebdma212agadaOacaaa744acd34875c39" ++
    "0a21362g975a226a1836aRa171a1119bcaadXaaa49653hgb5956g"),(222,"1434ara5003a5875a"),
  (224,"12334b"),(226,"119149a"),(228,"1454a4858a1357b4658a"),
  (230,"768uNhaaccccdacagm275e266dacbffbabbata75h59bbeab119gbdaabbbb67aababcabaacaaaaaaab160gaaH" ++
    "daiacae106acdPeenbbabacfcabbe81aab169a1411bbb981c1149a348a220a93hYefbdbbead156aag348cgbdasa" ++
    "cb198bagabdKeaba721bbdcbdaeaaafa3070c238F30831adjFb80b494r446aabcbebaa21342ggb1350e1684aNa1" ++
    "72a574d387b155caa53aaa379c611gce233a22225g26190eFd148c3515gaqbgabae261g375a61d1620f"),
  (232,"789ada61a6813a4661a"),(233,"860ababa6809a"),(234,"861bab6763a"),(240,"837a")]

def replacement (c : Char) : Chars :=
  let n := c.toNat
  let moved := movedRuns.findSome? fun (first, last, shift) =>
    if first <= n && n <= last then some [Char.ofNat (n + shift).toNat] else none
  let styled := alphabets.findSome? fun (first, last, row) =>
    if first <= n && n <= last then row.toList[(n - first) % row.length]?.map ([·]) else none
  let single := charReplacements.findSome? fun (first, listed) =>
    if n < first then none else listed.toList[n - first]?.map ([·])
  let several := wordReplacements.findSome? fun (first, listed) =>
    if n < first then none else (listed.splitOn " ")[n - first]?.map String.toList
  (((moved.or styled).or single).or several).getD [c]

def firstPart? (composite : Char) : Chars -> Option Char
  | first :: whole :: rest => if whole = composite then some first else firstPart? composite rest
  | _ => none

def parts? (composite : Char) : Option (Char × Char) := composites.findSome? fun (second, pairs) =>
    (firstPart? composite pairs.toList).map fun first => (first, Char.ofNat second)

def syllableStart : Nat := 0xAC00
def leadStart : Nat := 0x1100
def vowelStart : Nat := 0x1161
def trailStart : Nat := 0x11A7
def leadCount : Nat := 19
def vowelCount : Nat := 21
def trailCount : Nat := 28

def syllableParts? (c : Char) : Option Chars :=
  let n := c.toNat - syllableStart
  if c.toNat < syllableStart || leadCount * vowelCount * trailCount <= n then none
  else
    let lead := Char.ofNat (leadStart + n / (vowelCount * trailCount))
    let vowel := Char.ofNat (vowelStart + n % (vowelCount * trailCount) / trailCount)
    some (if n % trailCount = 0 then [lead, vowel]
      else [lead, vowel, Char.ofNat (trailStart + n % trailCount)])

def compositeDepth : Nat := 8

def takenApart : (depth : Nat) -> Char -> Chars
  | 0, c => [c]
  | depth + 1, c =>
    match syllableParts? c, parts? c with
    | some parts, _ => parts
    | none, some (first, second) => takenApart depth first ++ [second]
    | none, none => [c]

def markClass (c : Char) : Nat :=
  ((markClasses.find? fun (_, runs) => inRuns runs c.toNat).map Prod.fst).getD 0

def insertMark (mark : Char) : Chars -> Chars
  | [] => [mark]
  | c :: rest =>
    if markClass mark < markClass c then mark :: c :: rest else c :: insertMark mark rest

/-- Put marks in the order of their classes. `marks` are the ones just before. -/
def ordered (marks : Chars) : Chars -> Chars
  | [] => marks
  | c :: rest =>
    if markClass c = 0 then marks ++ c :: ordered [] rest
    else ordered (insertMark c marks) rest

def compositeOf? (first : Char) : Chars -> Option Char
  | part :: whole :: rest => if part = first then some whole else compositeOf? first rest
  | _ => none

def syllable? (first second : Char) : Option Char :=
  let lead := first.toNat - leadStart
  let vowel := second.toNat - vowelStart
  let trail := second.toNat - trailStart
  let n := first.toNat - syllableStart
  if leadStart <= first.toNat && lead < leadCount &&
      vowelStart <= second.toNat && vowel < vowelCount then
    some (Char.ofNat (syllableStart + (lead * vowelCount + vowel) * trailCount))
  else if syllableStart <= first.toNat && n < leadCount * vowelCount * trailCount &&
      n % trailCount = 0 && trailStart < second.toNat && trail < trailCount then
    some (Char.ofNat (first.toNat + trail))
  else none

def composed? (first second : Char) : Option Char :=
  (syllable? first second).or <| composites.findSome? fun (mark, pairs) =>
    if mark = second.toNat then compositeOf? first pairs.toList else none

/-- Compose what can be composed with the character that the last row of marks follows.
`between` are the marks that stay, in reverse order. -/
def composedWith (starter : Char) (between : Chars) : Chars -> Chars
  | [] => starter :: between.reverse
  | c :: rest =>
    let class_ := markClass c
    let isBlocked := match between with
      | [] => false
      | last :: _ => markClass last = 0 || class_ <= markClass last
    match if isBlocked then none else composed? starter c with
    | some whole => composedWith whole between rest
    | none =>
      if class_ = 0 then starter :: between.reverse ++ composedWith c [] rest
      else composedWith starter (c :: between) rest

def composed : Chars -> Chars
  | [] => []
  | c :: rest =>
    if markClass c = 0 then composedWith c [] rest else c :: composed rest

def compatibilityForm (text : Chars) : Chars := if text.all fun c => c.toNat < 128 then text
  else composed (ordered [] ((text.flatMap replacement).flatMap (takenApart compositeDepth)))
end RouteDocs.Text
