import ApiRouter.Text.Charset.Table

set_option autoImplicit false

/-! # Japanese characters

The characters of the basic standard, by rows and cells that count from 33. -/

namespace ApiRouter.Text.Charset.DoubleByte

/-- The basic characters. -/
def kanji : DoubleByte := [
  ⟨0x21, 0x21, "\u3000、。，．・：；？！゛゜´｀¨＾￣＿ヽヾゝゞ〃仝々〆〇ー―‐／＼〜‖｜…‥‘’“”（）〔〕［］｛｝〈〉《》「」『』【】＋−±×÷＝≠＜＞≦"⟩,
  ⟨0x21, 0x66, "≧∞∴♂♀°′″℃￥＄¢£％＃＆＊＠§☆★○●◎◇"⟩,
  ⟨0x22, 0x21, "◆□■△▲▽▼※〒→←↑↓〓"⟩,
  ⟨0x22, 0x3A, "∈∋⊆⊇⊂⊃∪∩"⟩,
  ⟨0x22, 0x4A, "∧∨¬⇒⇔∀∃"⟩,
  ⟨0x22, 0x5C, "∠⊥⌒∂∇≡≒≪≫√∽∝∵∫∬"⟩,
  ⟨0x22, 0x72, "Å‰♯♭♪†‡¶"⟩,
  ⟨0x22, 0x7E, "◯"⟩,
  ⟨0x23, 0x30, "０１２３４５６７８９"⟩,
  ⟨0x23, 0x41, "ＡＢＣＤＥＦＧＨＩＪＫＬＭＮＯＰＱＲＳＴＵＶＷＸＹＺ"⟩,
  ⟨0x23, 0x61, "ａｂｃｄｅｆｇｈｉｊｋｌｍｎｏｐｑｒｓｔｕｖｗｘｙｚ"⟩,
  ⟨0x24, 0x21, "ぁあぃいぅうぇえぉおかがきぎくぐけげこごさざしじすずせぜそぞただちぢっつづてでとどなにぬねのはばぱひびぴふぶぷへべぺほぼぽまみむめもゃやゅゆょよらり"⟩,
  ⟨0x24, 0x6B, "るれろゎわゐゑをん"⟩,
  ⟨0x25, 0x21, "ァアィイゥウェエォオカガキギクグケゲコゴサザシジスズセゼソゾタダチヂッツヅテデトドナニヌネノハバパヒビピフブプヘベペホボポマミムメモャヤュユョヨラリ"⟩,
  ⟨0x25, 0x6B, "ルレロヮワヰヱヲンヴヵヶ"⟩,
  ⟨0x26, 0x21, "ΑΒΓΔΕΖΗΘΙΚΛΜΝΞΟΠΡΣΤΥΦΧΨΩ"⟩,
  ⟨0x26, 0x41, "αβγδεζηθικλμνξοπρστυφχψω"⟩,
  ⟨0x27, 0x21, "АБВГДЕЁЖЗИЙКЛМНОПРСТУФХЦЧШЩЪЫЬЭЮЯ"⟩,
  ⟨0x27, 0x51, "абвгдеёжзийклмнопрстуфхцчшщъыьэюя"⟩,
  ⟨0x28, 0x21, "─│┌┐┘└├┬┤┴┼━┃┏┓┛┗┣┳┫┻╋┠┯┨┷┿┝┰┥┸╂"⟩,
  ⟨0x30, 0x21, "亜唖娃阿哀愛挨姶逢葵茜穐悪握渥旭葦芦鯵梓圧斡扱宛姐虻飴絢綾鮎或粟袷安庵按暗案闇鞍杏以伊位依偉囲夷委威尉惟意慰易椅為畏異移維緯胃萎衣謂違遺医井亥域育郁"⟩,
  ⟨0x30, 0x6B, "磯一壱溢逸稲茨芋鰯允印咽員因姻引飲淫胤蔭"⟩,
  ⟨0x31, 0x21, "院陰隠韻吋右宇烏羽迂雨卯鵜窺丑碓臼渦嘘唄欝蔚鰻姥厩浦瓜閏噂云運雲荏餌叡営嬰影映曳栄永泳洩瑛盈穎頴英衛詠鋭液疫益駅悦謁越閲榎厭円園堰奄宴延怨掩援沿演炎"⟩,
  ⟨0x31, 0x6B, "焔煙燕猿縁艶苑薗遠鉛鴛塩於汚甥凹央奥往応"⟩,
  ⟨0x32, 0x21, "押旺横欧殴王翁襖鴬鴎黄岡沖荻億屋憶臆桶牡乙俺卸恩温穏音下化仮何伽価佳加可嘉夏嫁家寡科暇果架歌河火珂禍禾稼箇花苛茄荷華菓蝦課嘩貨迦過霞蚊俄峨我牙画臥芽"⟩,
  ⟨0x32, 0x6B, "蛾賀雅餓駕介会解回塊壊廻快怪悔恢懐戒拐改"⟩,
  ⟨0x33, 0x21, "魁晦械海灰界皆絵芥蟹開階貝凱劾外咳害崖慨概涯碍蓋街該鎧骸浬馨蛙垣柿蛎鈎劃嚇各廓拡撹格核殻獲確穫覚角赫較郭閣隔革学岳楽額顎掛笠樫橿梶鰍潟割喝恰括活渇滑"⟩,
  ⟨0x33, 0x6B, "葛褐轄且鰹叶椛樺鞄株兜竃蒲釜鎌噛鴨栢茅萱"⟩,
  ⟨0x34, 0x21, "粥刈苅瓦乾侃冠寒刊勘勧巻喚堪姦完官寛干幹患感慣憾換敢柑桓棺款歓汗漢澗潅環甘監看竿管簡緩缶翰肝艦莞観諌貫還鑑間閑関陥韓館舘丸含岸巌玩癌眼岩翫贋雁頑顔願"⟩,
  ⟨0x34, 0x6B, "企伎危喜器基奇嬉寄岐希幾忌揮机旗既期棋棄"⟩,
  ⟨0x35, 0x21, "機帰毅気汽畿祈季稀紀徽規記貴起軌輝飢騎鬼亀偽儀妓宜戯技擬欺犠疑祇義蟻誼議掬菊鞠吉吃喫桔橘詰砧杵黍却客脚虐逆丘久仇休及吸宮弓急救朽求汲泣灸球究窮笈級糾"⟩,
  ⟨0x35, 0x6B, "給旧牛去居巨拒拠挙渠虚許距鋸漁禦魚亨享京"⟩,
  ⟨0x36, 0x21, "供侠僑兇競共凶協匡卿叫喬境峡強彊怯恐恭挟教橋況狂狭矯胸脅興蕎郷鏡響饗驚仰凝尭暁業局曲極玉桐粁僅勤均巾錦斤欣欽琴禁禽筋緊芹菌衿襟謹近金吟銀九倶句区狗玖"⟩,
  ⟨0x36, 0x6B, "矩苦躯駆駈駒具愚虞喰空偶寓遇隅串櫛釧屑屈"⟩,
  ⟨0x37, 0x21, "掘窟沓靴轡窪熊隈粂栗繰桑鍬勲君薫訓群軍郡卦袈祁係傾刑兄啓圭珪型契形径恵慶慧憩掲携敬景桂渓畦稽系経継繋罫茎荊蛍計詣警軽頚鶏芸迎鯨劇戟撃激隙桁傑欠決潔穴"⟩,
  ⟨0x37, 0x6B, "結血訣月件倹倦健兼券剣喧圏堅嫌建憲懸拳捲"⟩,
  ⟨0x38, 0x21, "検権牽犬献研硯絹県肩見謙賢軒遣鍵険顕験鹸元原厳幻弦減源玄現絃舷言諺限乎個古呼固姑孤己庫弧戸故枯湖狐糊袴股胡菰虎誇跨鈷雇顧鼓五互伍午呉吾娯後御悟梧檎瑚"⟩,
  ⟨0x38, 0x6B, "碁語誤護醐乞鯉交佼侯候倖光公功効勾厚口向"⟩,
  ⟨0x39, 0x21, "后喉坑垢好孔孝宏工巧巷幸広庚康弘恒慌抗拘控攻昂晃更杭校梗構江洪浩港溝甲皇硬稿糠紅紘絞綱耕考肯肱腔膏航荒行衡講貢購郊酵鉱砿鋼閤降項香高鴻剛劫号合壕拷濠"⟩,
  ⟨0x39, 0x6B, "豪轟麹克刻告国穀酷鵠黒獄漉腰甑忽惚骨狛込"⟩,
  ⟨0x3A, 0x21, "此頃今困坤墾婚恨懇昏昆根梱混痕紺艮魂些佐叉唆嵯左差査沙瑳砂詐鎖裟坐座挫債催再最哉塞妻宰彩才採栽歳済災采犀砕砦祭斎細菜裁載際剤在材罪財冴坂阪堺榊肴咲崎"⟩,
  ⟨0x3A, 0x6B, "埼碕鷺作削咋搾昨朔柵窄策索錯桜鮭笹匙冊刷"⟩,
  ⟨0x3B, 0x21, "察拶撮擦札殺薩雑皐鯖捌錆鮫皿晒三傘参山惨撒散桟燦珊産算纂蚕讃賛酸餐斬暫残仕仔伺使刺司史嗣四士始姉姿子屍市師志思指支孜斯施旨枝止死氏獅祉私糸紙紫肢脂至"⟩,
  ⟨0x3B, 0x6B, "視詞詩試誌諮資賜雌飼歯事似侍児字寺慈持時"⟩,
  ⟨0x3C, 0x21, "次滋治爾璽痔磁示而耳自蒔辞汐鹿式識鴫竺軸宍雫七叱執失嫉室悉湿漆疾質実蔀篠偲柴芝屡蕊縞舎写射捨赦斜煮社紗者謝車遮蛇邪借勺尺杓灼爵酌釈錫若寂弱惹主取守手"⟩,
  ⟨0x3C, 0x6B, "朱殊狩珠種腫趣酒首儒受呪寿授樹綬需囚収周"⟩,
  ⟨0x3D, 0x21, "宗就州修愁拾洲秀秋終繍習臭舟蒐衆襲讐蹴輯週酋酬集醜什住充十従戎柔汁渋獣縦重銃叔夙宿淑祝縮粛塾熟出術述俊峻春瞬竣舜駿准循旬楯殉淳準潤盾純巡遵醇順処初所"⟩,
  ⟨0x3D, 0x6B, "暑曙渚庶緒署書薯藷諸助叙女序徐恕鋤除傷償"⟩,
  ⟨0x3E, 0x21, "勝匠升召哨商唱嘗奨妾娼宵将小少尚庄床廠彰承抄招掌捷昇昌昭晶松梢樟樵沼消渉湘焼焦照症省硝礁祥称章笑粧紹肖菖蒋蕉衝裳訟証詔詳象賞醤鉦鍾鐘障鞘上丈丞乗冗剰"⟩,
  ⟨0x3E, 0x6B, "城場壌嬢常情擾条杖浄状畳穣蒸譲醸錠嘱埴飾"⟩,
  ⟨0x3F, 0x21, "拭植殖燭織職色触食蝕辱尻伸信侵唇娠寝審心慎振新晋森榛浸深申疹真神秦紳臣芯薪親診身辛進針震人仁刃塵壬尋甚尽腎訊迅陣靭笥諏須酢図厨逗吹垂帥推水炊睡粋翠衰"⟩,
  ⟨0x3F, 0x6B, "遂酔錐錘随瑞髄崇嵩数枢趨雛据杉椙菅頗雀裾"⟩,
  ⟨0x40, 0x21, "澄摺寸世瀬畝是凄制勢姓征性成政整星晴棲栖正清牲生盛精聖声製西誠誓請逝醒青静斉税脆隻席惜戚斥昔析石積籍績脊責赤跡蹟碩切拙接摂折設窃節説雪絶舌蝉仙先千占"⟩,
  ⟨0x40, 0x6B, "宣専尖川戦扇撰栓栴泉浅洗染潜煎煽旋穿箭線"⟩,
  ⟨0x41, 0x21, "繊羨腺舛船薦詮賎践選遷銭銑閃鮮前善漸然全禅繕膳糎噌塑岨措曾曽楚狙疏疎礎祖租粗素組蘇訴阻遡鼠僧創双叢倉喪壮奏爽宋層匝惣想捜掃挿掻操早曹巣槍槽漕燥争痩相"⟩,
  ⟨0x41, 0x6B, "窓糟総綜聡草荘葬蒼藻装走送遭鎗霜騒像増憎"⟩,
  ⟨0x42, 0x21, "臓蔵贈造促側則即息捉束測足速俗属賊族続卒袖其揃存孫尊損村遜他多太汰詑唾堕妥惰打柁舵楕陀駄騨体堆対耐岱帯待怠態戴替泰滞胎腿苔袋貸退逮隊黛鯛代台大第醍題"⟩,
  ⟨0x42, 0x6B, "鷹滝瀧卓啄宅托択拓沢濯琢託鐸濁諾茸凧蛸只"⟩,
  ⟨0x43, 0x21, "叩但達辰奪脱巽竪辿棚谷狸鱈樽誰丹単嘆坦担探旦歎淡湛炭短端箪綻耽胆蛋誕鍛団壇弾断暖檀段男談値知地弛恥智池痴稚置致蜘遅馳築畜竹筑蓄逐秩窒茶嫡着中仲宙忠抽"⟩,
  ⟨0x43, 0x6B, "昼柱注虫衷註酎鋳駐樗瀦猪苧著貯丁兆凋喋寵"⟩,
  ⟨0x44, 0x21, "帖帳庁弔張彫徴懲挑暢朝潮牒町眺聴脹腸蝶調諜超跳銚長頂鳥勅捗直朕沈珍賃鎮陳津墜椎槌追鎚痛通塚栂掴槻佃漬柘辻蔦綴鍔椿潰坪壷嬬紬爪吊釣鶴亭低停偵剃貞呈堤定"⟩,
  ⟨0x44, 0x6B, "帝底庭廷弟悌抵挺提梯汀碇禎程締艇訂諦蹄逓"⟩,
  ⟨0x45, 0x21, "邸鄭釘鼎泥摘擢敵滴的笛適鏑溺哲徹撤轍迭鉄典填天展店添纏甜貼転顛点伝殿澱田電兎吐堵塗妬屠徒斗杜渡登菟賭途都鍍砥砺努度土奴怒倒党冬凍刀唐塔塘套宕島嶋悼投"⟩,
  ⟨0x45, 0x6B, "搭東桃梼棟盗淘湯涛灯燈当痘祷等答筒糖統到"⟩,
  ⟨0x46, 0x21, "董蕩藤討謄豆踏逃透鐙陶頭騰闘働動同堂導憧撞洞瞳童胴萄道銅峠鴇匿得徳涜特督禿篤毒独読栃橡凸突椴届鳶苫寅酉瀞噸屯惇敦沌豚遁頓呑曇鈍奈那内乍凪薙謎灘捺鍋楢"⟩,
  ⟨0x46, 0x6B, "馴縄畷南楠軟難汝二尼弐迩匂賑肉虹廿日乳入"⟩,
  ⟨0x47, 0x21, "如尿韮任妊忍認濡禰祢寧葱猫熱年念捻撚燃粘乃廼之埜嚢悩濃納能脳膿農覗蚤巴把播覇杷波派琶破婆罵芭馬俳廃拝排敗杯盃牌背肺輩配倍培媒梅楳煤狽買売賠陪這蝿秤矧"⟩,
  ⟨0x47, 0x6B, "萩伯剥博拍柏泊白箔粕舶薄迫曝漠爆縛莫駁麦"⟩,
  ⟨0x48, 0x21, "函箱硲箸肇筈櫨幡肌畑畠八鉢溌発醗髪伐罰抜筏閥鳩噺塙蛤隼伴判半反叛帆搬斑板氾汎版犯班畔繁般藩販範釆煩頒飯挽晩番盤磐蕃蛮匪卑否妃庇彼悲扉批披斐比泌疲皮碑"⟩,
  ⟨0x48, 0x6B, "秘緋罷肥被誹費避非飛樋簸備尾微枇毘琵眉美"⟩,
  ⟨0x49, 0x21, "鼻柊稗匹疋髭彦膝菱肘弼必畢筆逼桧姫媛紐百謬俵彪標氷漂瓢票表評豹廟描病秒苗錨鋲蒜蛭鰭品彬斌浜瀕貧賓頻敏瓶不付埠夫婦富冨布府怖扶敷斧普浮父符腐膚芙譜負賦"⟩,
  ⟨0x49, 0x6B, "赴阜附侮撫武舞葡蕪部封楓風葺蕗伏副復幅服"⟩,
  ⟨0x4A, 0x21, "福腹複覆淵弗払沸仏物鮒分吻噴墳憤扮焚奮粉糞紛雰文聞丙併兵塀幣平弊柄並蔽閉陛米頁僻壁癖碧別瞥蔑箆偏変片篇編辺返遍便勉娩弁鞭保舗鋪圃捕歩甫補輔穂募墓慕戊"⟩,
  ⟨0x4A, 0x6B, "暮母簿菩倣俸包呆報奉宝峰峯崩庖抱捧放方朋"⟩,
  ⟨0x4B, 0x21, "法泡烹砲縫胞芳萌蓬蜂褒訪豊邦鋒飽鳳鵬乏亡傍剖坊妨帽忘忙房暴望某棒冒紡肪膨謀貌貿鉾防吠頬北僕卜墨撲朴牧睦穆釦勃没殆堀幌奔本翻凡盆摩磨魔麻埋妹昧枚毎哩槙"⟩,
  ⟨0x4B, 0x6B, "幕膜枕鮪柾鱒桝亦俣又抹末沫迄侭繭麿万慢満"⟩,
  ⟨0x4C, 0x21, "漫蔓味未魅巳箕岬密蜜湊蓑稔脈妙粍民眠務夢無牟矛霧鵡椋婿娘冥名命明盟迷銘鳴姪牝滅免棉綿緬面麺摸模茂妄孟毛猛盲網耗蒙儲木黙目杢勿餅尤戻籾貰問悶紋門匁也冶"⟩,
  ⟨0x4C, 0x6B, "夜爺耶野弥矢厄役約薬訳躍靖柳薮鑓愉愈油癒"⟩,
  ⟨0x4D, 0x21, "諭輸唯佑優勇友宥幽悠憂揖有柚湧涌猶猷由祐裕誘遊邑郵雄融夕予余与誉輿預傭幼妖容庸揚揺擁曜楊様洋溶熔用窯羊耀葉蓉要謡踊遥陽養慾抑欲沃浴翌翼淀羅螺裸来莱頼"⟩,
  ⟨0x4D, 0x6B, "雷洛絡落酪乱卵嵐欄濫藍蘭覧利吏履李梨理璃"⟩,
  ⟨0x4E, 0x21, "痢裏裡里離陸律率立葎掠略劉流溜琉留硫粒隆竜龍侶慮旅虜了亮僚両凌寮料梁涼猟療瞭稜糧良諒遼量陵領力緑倫厘林淋燐琳臨輪隣鱗麟瑠塁涙累類令伶例冷励嶺怜玲礼苓"⟩,
  ⟨0x4E, 0x6B, "鈴隷零霊麗齢暦歴列劣烈裂廉恋憐漣煉簾練聯"⟩,
  ⟨0x4F, 0x21, "蓮連錬呂魯櫓炉賂路露労婁廊弄朗楼榔浪漏牢狼篭老聾蝋郎六麓禄肋録論倭和話歪賄脇惑枠鷲亙亘鰐詫藁蕨椀湾碗腕"⟩,
  ⟨0x50, 0x21, "弌丐丕个丱丶丼丿乂乖乘亂亅豫亊舒弍于亞亟亠亢亰亳亶从仍仄仆仂仗仞仭仟价伉佚估佛佝佗佇佶侈侏侘佻佩佰侑佯來侖儘俔俟俎俘俛俑俚俐俤俥倚倨倔倪倥倅伜俶倡倩"⟩,
  ⟨0x50, 0x6B, "倬俾俯們倆偃假會偕偐偈做偖偬偸傀傚傅傴傲"⟩,
  ⟨0x51, 0x21, "僉僊傳僂僖僞僥僭僣僮價僵儉儁儂儖儕儔儚儡儺儷儼儻儿兀兒兌兔兢竸兩兪兮冀冂囘册冉冏冑冓冕冖冤冦冢冩冪冫决冱冲冰况冽凅凉凛几處凩凭凰凵凾刄刋刔刎刧刪刮刳"⟩,
  ⟨0x51, 0x6B, "刹剏剄剋剌剞剔剪剴剩剳剿剽劍劔劒剱劈劑辨"⟩,
  ⟨0x52, 0x21, "辧劬劭劼劵勁勍勗勞勣勦飭勠勳勵勸勹匆匈甸匍匐匏匕匚匣匯匱匳匸區卆卅丗卉卍凖卞卩卮夘卻卷厂厖厠厦厥厮厰厶參簒雙叟曼燮叮叨叭叺吁吽呀听吭吼吮吶吩吝呎咏呵"⟩,
  ⟨0x52, 0x6B, "咎呟呱呷呰咒呻咀呶咄咐咆哇咢咸咥咬哄哈咨"⟩,
  ⟨0x53, 0x21, "咫哂咤咾咼哘哥哦唏唔哽哮哭哺哢唹啀啣啌售啜啅啖啗唸唳啝喙喀咯喊喟啻啾喘喞單啼喃喩喇喨嗚嗅嗟嗄嗜嗤嗔嘔嗷嘖嗾嗽嘛嗹噎噐營嘴嘶嘲嘸噫噤嘯噬噪嚆嚀嚊嚠嚔嚏"⟩,
  ⟨0x53, 0x6B, "嚥嚮嚶嚴囂嚼囁囃囀囈囎囑囓囗囮囹圀囿圄圉"⟩,
  ⟨0x54, 0x21, "圈國圍圓團圖嗇圜圦圷圸坎圻址坏坩埀垈坡坿垉垓垠垳垤垪垰埃埆埔埒埓堊埖埣堋堙堝塲堡塢塋塰毀塒堽塹墅墹墟墫墺壞墻墸墮壅壓壑壗壙壘壥壜壤壟壯壺壹壻壼壽夂夊"⟩,
  ⟨0x54, 0x6B, "夐夛梦夥夬夭夲夸夾竒奕奐奎奚奘奢奠奧奬奩"⟩,
  ⟨0x55, 0x21, "奸妁妝佞侫妣妲姆姨姜妍姙姚娥娟娑娜娉娚婀婬婉娵娶婢婪媚媼媾嫋嫂媽嫣嫗嫦嫩嫖嫺嫻嬌嬋嬖嬲嫐嬪嬶嬾孃孅孀孑孕孚孛孥孩孰孳孵學斈孺宀它宦宸寃寇寉寔寐寤實寢"⟩,
  ⟨0x55, 0x6B, "寞寥寫寰寶寳尅將專對尓尠尢尨尸尹屁屆屎屓"⟩,
  ⟨0x56, 0x21, "屐屏孱屬屮乢屶屹岌岑岔妛岫岻岶岼岷峅岾峇峙峩峽峺峭嶌峪崋崕崗嵜崟崛崑崔崢崚崙崘嵌嵒嵎嵋嵬嵳嵶嶇嶄嶂嶢嶝嶬嶮嶽嶐嶷嶼巉巍巓巒巖巛巫已巵帋帚帙帑帛帶帷幄"⟩,
  ⟨0x56, 0x6B, "幃幀幎幗幔幟幢幤幇幵并幺麼广庠廁廂廈廐廏"⟩,
  ⟨0x57, 0x21, "廖廣廝廚廛廢廡廨廩廬廱廳廰廴廸廾弃弉彝彜弋弑弖弩弭弸彁彈彌彎弯彑彖彗彙彡彭彳彷徃徂彿徊很徑徇從徙徘徠徨徭徼忖忻忤忸忱忝悳忿怡恠怙怐怩怎怱怛怕怫怦怏怺"⟩,
  ⟨0x57, 0x6B, "恚恁恪恷恟恊恆恍恣恃恤恂恬恫恙悁悍惧悃悚"⟩,
  ⟨0x58, 0x21, "悄悛悖悗悒悧悋惡悸惠惓悴忰悽惆悵惘慍愕愆惶惷愀惴惺愃愡惻惱愍愎慇愾愨愧慊愿愼愬愴愽慂慄慳慷慘慙慚慫慴慯慥慱慟慝慓慵憙憖憇憬憔憚憊憑憫憮懌懊應懷懈懃懆"⟩,
  ⟨0x58, 0x6B, "憺懋罹懍懦懣懶懺懴懿懽懼懾戀戈戉戍戌戔戛"⟩,
  ⟨0x59, 0x21, "戞戡截戮戰戲戳扁扎扞扣扛扠扨扼抂抉找抒抓抖拔抃抔拗拑抻拏拿拆擔拈拜拌拊拂拇抛拉挌拮拱挧挂挈拯拵捐挾捍搜捏掖掎掀掫捶掣掏掉掟掵捫捩掾揩揀揆揣揉插揶揄搖"⟩,
  ⟨0x59, 0x6B, "搴搆搓搦搶攝搗搨搏摧摯摶摎攪撕撓撥撩撈撼"⟩,
  ⟨0x5A, 0x21, "據擒擅擇撻擘擂擱擧舉擠擡抬擣擯攬擶擴擲擺攀擽攘攜攅攤攣攫攴攵攷收攸畋效敖敕敍敘敞敝敲數斂斃變斛斟斫斷旃旆旁旄旌旒旛旙无旡旱杲昊昃旻杳昵昶昴昜晏晄晉晁"⟩,
  ⟨0x5A, 0x6B, "晞晝晤晧晨晟晢晰暃暈暎暉暄暘暝曁暹曉暾暼"⟩,
  ⟨0x5B, 0x21, "曄暸曖曚曠昿曦曩曰曵曷朏朖朞朦朧霸朮朿朶杁朸朷杆杞杠杙杣杤枉杰枩杼杪枌枋枦枡枅枷柯枴柬枳柩枸柤柞柝柢柮枹柎柆柧檜栞框栩桀桍栲桎梳栫桙档桷桿梟梏梭梔條"⟩,
  ⟨0x5B, 0x6B, "梛梃檮梹桴梵梠梺椏梍桾椁棊椈棘椢椦棡椌棍"⟩,
  ⟨0x5C, 0x21, "棔棧棕椶椒椄棗棣椥棹棠棯椨椪椚椣椡棆楹楷楜楸楫楔楾楮椹楴椽楙椰楡楞楝榁楪榲榮槐榿槁槓榾槎寨槊槝榻槃榧樮榑榠榜榕榴槞槨樂樛槿權槹槲槧樅榱樞槭樔槫樊樒櫁"⟩,
  ⟨0x5C, 0x6B, "樣樓橄樌橲樶橸橇橢橙橦橈樸樢檐檍檠檄檢檣"⟩,
  ⟨0x5D, 0x21, "檗蘗檻櫃櫂檸檳檬櫞櫑櫟檪櫚櫪櫻欅蘖櫺欒欖鬱欟欸欷盜欹飮歇歃歉歐歙歔歛歟歡歸歹歿殀殄殃殍殘殕殞殤殪殫殯殲殱殳殷殼毆毋毓毟毬毫毳毯麾氈氓气氛氤氣汞汕汢汪"⟩,
  ⟨0x5D, 0x6B, "沂沍沚沁沛汾汨汳沒沐泄泱泓沽泗泅泝沮沱沾"⟩,
  ⟨0x5E, 0x21, "沺泛泯泙泪洟衍洶洫洽洸洙洵洳洒洌浣涓浤浚浹浙涎涕濤涅淹渕渊涵淇淦涸淆淬淞淌淨淒淅淺淙淤淕淪淮渭湮渮渙湲湟渾渣湫渫湶湍渟湃渺湎渤滿渝游溂溪溘滉溷滓溽溯"⟩,
  ⟨0x5E, 0x6B, "滄溲滔滕溏溥滂溟潁漑灌滬滸滾漿滲漱滯漲滌"⟩,
  ⟨0x5F, 0x21, "漾漓滷澆潺潸澁澀潯潛濳潭澂潼潘澎澑濂潦澳澣澡澤澹濆澪濟濕濬濔濘濱濮濛瀉瀋濺瀑瀁瀏濾瀛瀚潴瀝瀘瀟瀰瀾瀲灑灣炙炒炯烱炬炸炳炮烟烋烝烙焉烽焜焙煥煕熈煦煢煌"⟩,
  ⟨0x5F, 0x6B, "煖煬熏燻熄熕熨熬燗熹熾燒燉燔燎燠燬燧燵燼"⟩,
  ⟨0x60, 0x21, "燹燿爍爐爛爨爭爬爰爲爻爼爿牀牆牋牘牴牾犂犁犇犒犖犢犧犹犲狃狆狄狎狒狢狠狡狹狷倏猗猊猜猖猝猴猯猩猥猾獎獏默獗獪獨獰獸獵獻獺珈玳珎玻珀珥珮珞璢琅瑯琥珸琲"⟩,
  ⟨0x60, 0x6B, "琺瑕琿瑟瑙瑁瑜瑩瑰瑣瑪瑶瑾璋璞璧瓊瓏瓔珱"⟩,
  ⟨0x61, 0x21, "瓠瓣瓧瓩瓮瓲瓰瓱瓸瓷甄甃甅甌甎甍甕甓甞甦甬甼畄畍畊畉畛畆畚畩畤畧畫畭畸當疆疇畴疊疉疂疔疚疝疥疣痂疳痃疵疽疸疼疱痍痊痒痙痣痞痾痿痼瘁痰痺痲痳瘋瘍瘉瘟瘧"⟩,
  ⟨0x61, 0x6B, "瘠瘡瘢瘤瘴瘰瘻癇癈癆癜癘癡癢癨癩癪癧癬癰"⟩,
  ⟨0x62, 0x21, "癲癶癸發皀皃皈皋皎皖皓皙皚皰皴皸皹皺盂盍盖盒盞盡盥盧盪蘯盻眈眇眄眩眤眞眥眦眛眷眸睇睚睨睫睛睥睿睾睹瞎瞋瞑瞠瞞瞰瞶瞹瞿瞼瞽瞻矇矍矗矚矜矣矮矼砌砒礦砠礪"⟩,
  ⟨0x62, 0x6B, "硅碎硴碆硼碚碌碣碵碪碯磑磆磋磔碾碼磅磊磬"⟩,
  ⟨0x63, 0x21, "磧磚磽磴礇礒礑礙礬礫祀祠祗祟祚祕祓祺祿禊禝禧齋禪禮禳禹禺秉秕秧秬秡秣稈稍稘稙稠稟禀稱稻稾稷穃穗穉穡穢穩龝穰穹穽窈窗窕窘窖窩竈窰窶竅竄窿邃竇竊竍竏竕竓"⟩,
  ⟨0x63, 0x6B, "站竚竝竡竢竦竭竰笂笏笊笆笳笘笙笞笵笨笶筐"⟩,
  ⟨0x64, 0x21, "筺笄筍笋筌筅筵筥筴筧筰筱筬筮箝箘箟箍箜箚箋箒箏筝箙篋篁篌篏箴篆篝篩簑簔篦篥籠簀簇簓篳篷簗簍篶簣簧簪簟簷簫簽籌籃籔籏籀籐籘籟籤籖籥籬籵粃粐粤粭粢粫粡粨"⟩,
  ⟨0x64, 0x6B, "粳粲粱粮粹粽糀糅糂糘糒糜糢鬻糯糲糴糶糺紆"⟩,
  ⟨0x65, 0x21, "紂紜紕紊絅絋紮紲紿紵絆絳絖絎絲絨絮絏絣經綉絛綏絽綛綺綮綣綵緇綽綫總綢綯緜綸綟綰緘緝緤緞緻緲緡縅縊縣縡縒縱縟縉縋縢繆繦縻縵縹繃縷縲縺繧繝繖繞繙繚繹繪繩"⟩,
  ⟨0x65, 0x6B, "繼繻纃緕繽辮繿纈纉續纒纐纓纔纖纎纛纜缸缺"⟩,
  ⟨0x66, 0x21, "罅罌罍罎罐网罕罔罘罟罠罨罩罧罸羂羆羃羈羇羌羔羞羝羚羣羯羲羹羮羶羸譱翅翆翊翕翔翡翦翩翳翹飜耆耄耋耒耘耙耜耡耨耿耻聊聆聒聘聚聟聢聨聳聲聰聶聹聽聿肄肆肅肛"⟩,
  ⟨0x66, 0x6B, "肓肚肭冐肬胛胥胙胝胄胚胖脉胯胱脛脩脣脯腋"⟩,
  ⟨0x67, 0x21, "隋腆脾腓腑胼腱腮腥腦腴膃膈膊膀膂膠膕膤膣腟膓膩膰膵膾膸膽臀臂膺臉臍臑臙臘臈臚臟臠臧臺臻臾舁舂舅與舊舍舐舖舩舫舸舳艀艙艘艝艚艟艤艢艨艪艫舮艱艷艸艾芍芒"⟩,
  ⟨0x67, 0x6B, "芫芟芻芬苡苣苟苒苴苳苺莓范苻苹苞茆苜茉苙"⟩,
  ⟨0x68, 0x21, "茵茴茖茲茱荀茹荐荅茯茫茗茘莅莚莪莟莢莖茣莎莇莊荼莵荳荵莠莉莨菴萓菫菎菽萃菘萋菁菷萇菠菲萍萢萠莽萸蔆菻葭萪萼蕚蒄葷葫蒭葮蒂葩葆萬葯葹萵蓊葢蒹蒿蒟蓙蓍蒻"⟩,
  ⟨0x68, 0x6B, "蓚蓐蓁蓆蓖蒡蔡蓿蓴蔗蔘蔬蔟蔕蔔蓼蕀蕣蕘蕈"⟩,
  ⟨0x69, 0x21, "蕁蘂蕋蕕薀薤薈薑薊薨蕭薔薛藪薇薜蕷蕾薐藉薺藏薹藐藕藝藥藜藹蘊蘓蘋藾藺蘆蘢蘚蘰蘿虍乕虔號虧虱蚓蚣蚩蚪蚋蚌蚶蚯蛄蛆蚰蛉蠣蚫蛔蛞蛩蛬蛟蛛蛯蜒蜆蜈蜀蜃蛻蜑蜉"⟩,
  ⟨0x69, 0x6B, "蜍蛹蜊蜴蜿蜷蜻蜥蜩蜚蝠蝟蝸蝌蝎蝴蝗蝨蝮蝙"⟩,
  ⟨0x6A, 0x21, "蝓蝣蝪蠅螢螟螂螯蟋螽蟀蟐雖螫蟄螳蟇蟆螻蟯蟲蟠蠏蠍蟾蟶蟷蠎蟒蠑蠖蠕蠢蠡蠱蠶蠹蠧蠻衄衂衒衙衞衢衫袁衾袞衵衽袵衲袂袗袒袮袙袢袍袤袰袿袱裃裄裔裘裙裝裹褂裼裴"⟩,
  ⟨0x6A, 0x6B, "裨裲褄褌褊褓襃褞褥褪褫襁襄褻褶褸襌褝襠襞"⟩,
  ⟨0x6B, 0x21, "襦襤襭襪襯襴襷襾覃覈覊覓覘覡覩覦覬覯覲覺覽覿觀觚觜觝觧觴觸訃訖訐訌訛訝訥訶詁詛詒詆詈詼詭詬詢誅誂誄誨誡誑誥誦誚誣諄諍諂諚諫諳諧諤諱謔諠諢諷諞諛謌謇謚"⟩,
  ⟨0x6B, 0x6B, "諡謖謐謗謠謳鞫謦謫謾謨譁譌譏譎證譖譛譚譫"⟩,
  ⟨0x6C, 0x21, "譟譬譯譴譽讀讌讎讒讓讖讙讚谺豁谿豈豌豎豐豕豢豬豸豺貂貉貅貊貍貎貔豼貘戝貭貪貽貲貳貮貶賈賁賤賣賚賽賺賻贄贅贊贇贏贍贐齎贓賍贔贖赧赭赱赳趁趙跂趾趺跏跚跖"⟩,
  ⟨0x6C, 0x6B, "跌跛跋跪跫跟跣跼踈踉跿踝踞踐踟蹂踵踰踴蹊"⟩,
  ⟨0x6D, 0x21, "蹇蹉蹌蹐蹈蹙蹤蹠踪蹣蹕蹶蹲蹼躁躇躅躄躋躊躓躑躔躙躪躡躬躰軆躱躾軅軈軋軛軣軼軻軫軾輊輅輕輒輙輓輜輟輛輌輦輳輻輹轅轂輾轌轉轆轎轗轜轢轣轤辜辟辣辭辯辷迚迥"⟩,
  ⟨0x6D, 0x6B, "迢迪迯邇迴逅迹迺逑逕逡逍逞逖逋逧逶逵逹迸"⟩,
  ⟨0x6E, 0x21, "遏遐遑遒逎遉逾遖遘遞遨遯遶隨遲邂遽邁邀邊邉邏邨邯邱邵郢郤扈郛鄂鄒鄙鄲鄰酊酖酘酣酥酩酳酲醋醉醂醢醫醯醪醵醴醺釀釁釉釋釐釖釟釡釛釼釵釶鈞釿鈔鈬鈕鈑鉞鉗鉅"⟩,
  ⟨0x6E, 0x6B, "鉉鉤鉈銕鈿鉋鉐銜銖銓銛鉚鋏銹銷鋩錏鋺鍄錮"⟩,
  ⟨0x6F, 0x21, "錙錢錚錣錺錵錻鍜鍠鍼鍮鍖鎰鎬鎭鎔鎹鏖鏗鏨鏥鏘鏃鏝鏐鏈鏤鐚鐔鐓鐃鐇鐐鐶鐫鐵鐡鐺鑁鑒鑄鑛鑠鑢鑞鑪鈩鑰鑵鑷鑽鑚鑼鑾钁鑿閂閇閊閔閖閘閙閠閨閧閭閼閻閹閾闊濶闃"⟩,
  ⟨0x6F, 0x6B, "闍闌闕闔闖關闡闥闢阡阨阮阯陂陌陏陋陷陜陞"⟩,
  ⟨0x70, 0x21, "陝陟陦陲陬隍隘隕隗險隧隱隲隰隴隶隸隹雎雋雉雍襍雜霍雕雹霄霆霈霓霎霑霏霖霙霤霪霰霹霽霾靄靆靈靂靉靜靠靤靦靨勒靫靱靹鞅靼鞁靺鞆鞋鞏鞐鞜鞨鞦鞣鞳鞴韃韆韈韋"⟩,
  ⟨0x70, 0x6B, "韜韭齏韲竟韶韵頏頌頸頤頡頷頽顆顏顋顫顯顰"⟩,
  ⟨0x71, 0x21, "顱顴顳颪颯颱颶飄飃飆飩飫餃餉餒餔餘餡餝餞餤餠餬餮餽餾饂饉饅饐饋饑饒饌饕馗馘馥馭馮馼駟駛駝駘駑駭駮駱駲駻駸騁騏騅駢騙騫騷驅驂驀驃騾驕驍驛驗驟驢驥驤驩驫"⟩,
  ⟨0x71, 0x6B, "驪骭骰骼髀髏髑髓體髞髟髢髣髦髯髫髮髴髱髷"⟩,
  ⟨0x72, 0x21, "髻鬆鬘鬚鬟鬢鬣鬥鬧鬨鬩鬪鬮鬯鬲魄魃魏魍魎魑魘魴鮓鮃鮑鮖鮗鮟鮠鮨鮴鯀鯊鮹鯆鯏鯑鯒鯣鯢鯤鯔鯡鰺鯲鯱鯰鰕鰔鰉鰓鰌鰆鰈鰒鰊鰄鰮鰛鰥鰤鰡鰰鱇鰲鱆鰾鱚鱠鱧鱶鱸鳧"⟩,
  ⟨0x72, 0x6B, "鳬鳰鴉鴈鳫鴃鴆鴪鴦鶯鴣鴟鵄鴕鴒鵁鴿鴾鵆鵈"⟩,
  ⟨0x73, 0x21, "鵝鵞鵤鵑鵐鵙鵲鶉鶇鶫鵯鵺鶚鶤鶩鶲鷄鷁鶻鶸鶺鷆鷏鷂鷙鷓鷸鷦鷭鷯鷽鸚鸛鸞鹵鹹鹽麁麈麋麌麒麕麑麝麥麩麸麪麭靡黌黎黏黐黔黜點黝黠黥黨黯黴黶黷黹黻黼黽鼇鼈皷鼕"⟩,
  ⟨0x73, 0x6B, "鼡鼬鼾齊齒齔齣齟齠齡齦齧齬齪齷齲齶龕龜龠"⟩,
  ⟨0x74, 0x21, "堯槇遙瑤凜熙"⟩]

/-! ## More Japanese characters

Characters of the two standards that extend the basic one, and of one vendor. -/

/-- The characters of the first extension. -/
def kanjiMore : DoubleByte := [
  ⟨0x22, 0x2F, "˘ˇ¸˙˝¯˛˚~΄΅"⟩,
  ⟨0x22, 0x42, "¡¦¿"⟩,
  ⟨0x22, 0x6B, "ºª©®™¤№"⟩,
  ⟨0x26, 0x61, "ΆΈΉΊΪ�Ό�ΎΫ�Ώ"⟩,
  ⟨0x26, 0x71, "άέήίϊΐόςύϋΰώ"⟩,
  ⟨0x27, 0x42, "ЂЃЄЅІЇЈЉЊЋЌЎЏ"⟩,
  ⟨0x27, 0x72, "ђѓєѕіїјљњћќўџ"⟩,
  ⟨0x29, 0x21, "ÆĐ�Ħ�Ĳ�ŁĿ�ŊØŒ�ŦÞ"⟩,
  ⟨0x29, 0x41, "æđðħıĳĸłŀŉŋøœßŧþ"⟩,
  ⟨0x2A, 0x21, "ÁÀÄÂĂǍĀĄÅÃĆĈČÇĊĎÉÈËÊĚĖĒĘ�ĜĞĢĠĤÍÌÏÎǏİĪĮĨĴĶĹĽĻŃŇŅÑÓÒÖÔǑŐŌÕŔŘŖŚŜŠŞŤŢÚÙÜÛŬǓŰŪŲ"⟩,
  ⟨0x2A, 0x6B, "ŮŨǗǛǙǕŴÝŸŶŹŽŻ"⟩,
  ⟨0x2B, 0x21, "áàäâăǎāąåãćĉčçċďéèëêěėēęǵĝğ�ġĥíìïîǐ�īįĩĵķĺľļńňņñóòöôǒőōõŕřŗśŝšşťţúùüûŭǔűūų"⟩,
  ⟨0x2B, 0x6B, "ůũǘǜǚǖŵýÿŷźžż"⟩,
  ⟨0x30, 0x21, "丂丄丅丌丒丟丣两丨丫丮丯丰丵乀乁乄乇乑乚乜乣乨乩乴乵乹乿亍亖亗亝亯亹仃仐仚仛仠仡仢仨仯仱仳仵份仾仿伀伂伃伈伋伌伒伕伖众伙伮伱你伳伵伷伹伻伾佀佂佈佉佋"⟩,
  ⟨0x30, 0x6B, "佌佒佔佖佘佟佣佪佬佮佱佷佸佹佺佽佾侁侂侄"⟩,
  ⟨0x31, 0x21, "侅侉侊侌侎侐侒侓侔侗侙侚侞侟侲侷侹侻侼侽侾俀俁俅俆俈俉俋俌俍俏俒俜俠俢俰俲俼俽俿倀倁倄倇倊倌倎倐倓倗倘倛倜倝倞倢倧倮倰倲倳倵偀偁偂偅偆偊偌偎偑偒偓偗"⟩,
  ⟨0x31, 0x6B, "偙偟偠偢偣偦偧偪偭偰偱倻傁傃傄傆傊傎傏傐"⟩,
  ⟨0x32, 0x21, "傒傓傔傖傛傜傞傟傠傡傢傪傯傰傹傺傽僀僃僄僇僌僎僐僓僔僘僜僝僟僢僤僦僨僩僯僱僶僺僾儃儆儇儈儋儌儍儎僲儐儗儙儛儜儝儞儣儧儨儬儭儯儱儳儴儵儸儹兂兊兏兓兕兗"⟩,
  ⟨0x32, 0x6B, "兘兟兤兦兾冃冄冋冎冘冝冡冣冭冸冺冼冾冿凂"⟩,
  ⟨0x33, 0x21, "凈减凑凒凓凕凘凞凢凥凮凲凳凴凷刁刂刅划刓刕刖刘刢刨刱刲刵刼剅剉剕剗剘剚剜剟剠剡剦剮剷剸剹劀劂劅劊劌劓劕劖劗劘劚劜劤劥劦劧劯劰劶劷劸劺劻劽勀勄勆勈勌勏"⟩,
  ⟨0x33, 0x6B, "勑勔勖勛勜勡勥勨勩勪勬勰勱勴勶勷匀匃匊匋"⟩,
  ⟨0x34, 0x21, "匌匑匓匘匛匜匞匟匥匧匨匩匫匬匭匰匲匵匼匽匾卂卌卋卙卛卡卣卥卬卭卲卹卾厃厇厈厎厓厔厙厝厡厤厪厫厯厲厴厵厷厸厺厽叀叅叏叒叓叕叚叝叞叠另叧叵吂吓吚吡吧吨吪"⟩,
  ⟨0x34, 0x6B, "启吱吴吵呃呄呇呍呏呞呢呤呦呧呩呫呭呮呴呿"⟩,
  ⟨0x35, 0x21, "咁咃咅咈咉咍咑咕咖咜咟咡咦咧咩咪咭咮咱咷咹咺咻咿哆哊响哎哠哪哬哯哶哼哾哿唀唁唅唈唉唌唍唎唕唪唫唲唵唶唻唼唽啁啇啉啊啍啐啑啘啚啛啞啠啡啤啦啿喁喂喆喈喎"⟩,
  ⟨0x35, 0x6B, "喏喑喒喓喔喗喣喤喭喲喿嗁嗃嗆嗉嗋嗌嗎嗑嗒"⟩,
  ⟨0x36, 0x21, "嗓嗗嗘嗛嗞嗢嗩嗶嗿嘅嘈嘊嘍嘎嘏嘐嘑嘒嘙嘬嘰嘳嘵嘷嘹嘻嘼嘽嘿噀噁噃噄噆噉噋噍噏噔噞噠噡噢噣噦噩噭噯噱噲噵嚄嚅嚈嚋嚌嚕嚙嚚嚝嚞嚟嚦嚧嚨嚩嚫嚬嚭嚱嚳嚷嚾囅"⟩,
  ⟨0x36, 0x6B, "囉囊囋囏囐囌囍囙囜囝囟囡囤囥囦囧囨囱囫园"⟩,
  ⟨0x37, 0x21, "囶囷圁圂圇圊圌圑圕圚圛圝圠圢圣圤圥圩圪圬圮圯圳圴圽圾圿坅坆坌坍坒坢坥坧坨坫坭坮坯坰坱坳坴坵坷坹坺坻坼坾垁垃垌垔垗垙垚垜垝垞垟垡垕垧垨垩垬垸垽埇埈埌埏"⟩,
  ⟨0x37, 0x6B, "埕埝埞埤埦埧埩埭埰埵埶埸埽埾埿堃堄堈堉埡"⟩,
  ⟨0x38, 0x21, "堌堍堛堞堟堠堦堧堭堲堹堿塉塌塍塏塐塕塟塡塤塧塨塸塼塿墀墁墇墈墉墊墌墍墏墐墔墖墝墠墡墢墦墩墱墲壄墼壂壈壍壎壐壒壔壖壚壝壡壢壩壳夅夆夋夌夒夓夔虁夝夡夣夤"⟩,
  ⟨0x38, 0x6B, "夨夯夰夳夵夶夿奃奆奒奓奙奛奝奞奟奡奣奫奭"⟩,
  ⟨0x39, 0x21, "奯奲奵奶她奻奼妋妌妎妒妕妗妟妤妧妭妮妯妰妳妷妺妼姁姃姄姈姊姍姒姝姞姟姣姤姧姮姯姱姲姴姷娀娄娌娍娎娒娓娞娣娤娧娨娪娭娰婄婅婇婈婌婐婕婞婣婥婧婭婷婺婻婾"⟩,
  ⟨0x39, 0x6B, "媋媐媓媖媙媜媞媟媠媢媧媬媱媲媳媵媸媺媻媿"⟩,
  ⟨0x3A, 0x21, "嫄嫆嫈嫏嫚嫜嫠嫥嫪嫮嫵嫶嫽嬀嬁嬈嬗嬴嬙嬛嬝嬡嬥嬭嬸孁孋孌孒孖孞孨孮孯孼孽孾孿宁宄宆宊宎宐宑宓宔宖宨宩宬宭宯宱宲宷宺宼寀寁寍寏寖寗寘寙寚寠寯寱寴寽尌尗"⟩,
  ⟨0x3A, 0x6B, "尞尟尣尦尩尫尬尮尰尲尵尶屙屚屜屢屣屧屨屩"⟩,
  ⟨0x3B, 0x21, "屭屰屴屵屺屻屼屽岇岈岊岏岒岝岟岠岢岣岦岪岲岴岵岺峉峋峒峝峗峮峱峲峴崁崆崍崒崫崣崤崦崧崱崴崹崽崿嵂嵃嵆嵈嵕嵑嵙嵊嵟嵠嵡嵢嵤嵪嵭嵰嵹嵺嵾嵿嶁嶃嶈嶊嶒嶓嶔"⟩,
  ⟨0x3B, 0x6B, "嶕嶙嶛嶟嶠嶧嶫嶰嶴嶸嶹巃巇巋巐巎巘巙巠巤"⟩,
  ⟨0x3C, 0x21, "巩巸巹帀帇帍帒帔帕帘帟帠帮帨帲帵帾幋幐幉幑幖幘幛幜幞幨幪幫幬幭幮幰庀庋庎庢庤庥庨庪庬庱庳庽庾庿廆廌廋廎廑廒廔廕廜廞廥廫异弆弇弈弎弙弜弝弡弢弣弤弨弫弬"⟩,
  ⟨0x3C, 0x6B, "弮弰弴弶弻弽弿彀彄彅彇彍彐彔彘彛彠彣彤彧"⟩,
  ⟨0x3D, 0x21, "彯彲彴彵彸彺彽彾徉徍徏徖徜徝徢徧徫徤徬徯徰徱徸忄忇忈忉忋忐忑忒忓忔忞忡忢忨忩忪忬忭忮忯忲忳忶忺忼怇怊怍怓怔怗怘怚怟怤怭怳怵恀恇恈恉恌恑恔恖恗恝恡恧恱"⟩,
  ⟨0x3D, 0x6B, "恾恿悂悆悈悊悎悑悓悕悘悝悞悢悤悥您悰悱悷"⟩,
  ⟨0x3E, 0x21, "悻悾惂惄惈惉惊惋惎惏惔惕惙惛惝惞惢惥惲惵惸惼惽愂愇愊愌愐愑愒愓愔愖愗愙愜愞愢愪愫愰愱愵愶愷愹慁慅慆慉慞慠慬慲慸慻慼慿憀憁憃憄憋憍憒憓憗憘憜憝憟憠憥憨"⟩,
  ⟨0x3E, 0x6B, "憪憭憸憹憼懀懁懂懎懏懕懜懝懞懟懡懢懧懩懥"⟩,
  ⟨0x3F, 0x21, "懬懭懯戁戃戄戇戓戕戜戠戢戣戧戩戫戹戽扂扃扄扆扌扐扑扒扔扖扚扜扤扭扯扳扺扽抍抎抏抐抦抨抳抶抷抺抾抿拄拎拕拖拚拪拲拴拼拽挃挄挊挋挍挐挓挖挘挩挪挭挵挶挹挼"⟩,
  ⟨0x3F, 0x6B, "捁捂捃捄捆捊捋捎捒捓捔捘捛捥捦捬捭捱捴捵"⟩,
  ⟨0x40, 0x21, "捸捼捽捿掂掄掇掊掐掔掕掙掚掞掤掦掭掮掯掽揁揅揈揎揑揓揔揕揜揠揥揪揬揲揳揵揸揹搉搊搐搒搔搘搞搠搢搤搥搩搪搯搰搵搽搿摋摏摑摒摓摔摚摛摜摝摟摠摡摣摭摳摴摻"⟩,
  ⟨0x40, 0x6B, "摽撅撇撏撐撑撘撙撛撝撟撡撣撦撨撬撳撽撾撿"⟩,
  ⟨0x41, 0x21, "擄擉擊擋擌擎擐擑擕擗擤擥擩擪擭擰擵擷擻擿攁攄攈攉攊攏攓攔攖攙攛攞攟攢攦攩攮攱攺攼攽敃敇敉敐敒敔敟敠敧敫敺敽斁斅斊斒斕斘斝斠斣斦斮斲斳斴斿旂旈旉旎旐旔"⟩,
  ⟨0x41, 0x6B, "旖旘旟旰旲旴旵旹旾旿昀昄昈昉昍昑昒昕昖昝"⟩,
  ⟨0x42, 0x21, "昞昡昢昣昤昦昩昪昫昬昮昰昱昳昹昷晀晅晆晊晌晑晎晗晘晙晛晜晠晡曻晪晫晬晾晳晵晿晷晸晹晻暀晼暋暌暍暐暒暙暚暛暜暟暠暤暭暱暲暵暻暿曀曂曃曈曌曎曏曔曛曟曨曫"⟩,
  ⟨0x42, 0x6B, "曬曮曺朅朇朎朓朙朜朠朢朳朾杅杇杈杌杔杕杝"⟩,
  ⟨0x43, 0x21, "杦杬杮杴杶杻极构枎枏枑枓枖枘枙枛枰枱枲枵枻枼枽柹柀柂柃柅柈柉柒柗柙柜柡柦柰柲柶柷桒栔栙栝栟栨栧栬栭栯栰栱栳栻栿桄桅桊桌桕桗桘桛桫桮桯桰桱桲桵桹桺桻桼"⟩,
  ⟨0x43, 0x6B, "梂梄梆梈梖梘梚梜梡梣梥梩梪梮梲梻棅棈棌棏"⟩,
  ⟨0x44, 0x21, "棐棑棓棖棙棜棝棥棨棪棫棬棭棰棱棵棶棻棼棽椆椉椊椐椑椓椖椗椱椳椵椸椻楂楅楉楎楗楛楣楤楥楦楨楩楬楰楱楲楺楻楿榀榍榒榖榘榡榥榦榨榫榭榯榷榸榺榼槅槈槑槖槗槢"⟩,
  ⟨0x44, 0x6B, "槥槮槯槱槳槵槾樀樁樃樏樑樕樚樝樠樤樨樰樲"⟩,
  ⟨0x45, 0x21, "樴樷樻樾樿橅橆橉橊橎橐橑橒橕橖橛橤橧橪橱橳橾檁檃檆檇檉檋檑檛檝檞檟檥檫檯檰檱檴檽檾檿櫆櫉櫈櫌櫐櫔櫕櫖櫜櫝櫤櫧櫬櫰櫱櫲櫼櫽欂欃欆欇欉欏欐欑欗欛欞欤欨欫"⟩,
  ⟨0x45, 0x6B, "欬欯欵欶欻欿歆歊歍歒歖歘歝歠歧歫歮歰歵歽"⟩,
  ⟨0x46, 0x21, "歾殂殅殗殛殟殠殢殣殨殩殬殭殮殰殸殹殽殾毃毄毉毌毖毚毡毣毦毧毮毱毷毹毿氂氄氅氉氍氎氐氒氙氟氦氧氨氬氮氳氵氶氺氻氿汊汋汍汏汒汔汙汛汜汫汭汯汴汶汸汹汻沅沆"⟩,
  ⟨0x46, 0x6B, "沇沉沔沕沗沘沜沟沰沲沴泂泆泍泏泐泑泒泔泖"⟩,
  ⟨0x47, 0x21, "泚泜泠泧泩泫泬泮泲泴洄洇洊洎洏洑洓洚洦洧洨汧洮洯洱洹洼洿浗浞浟浡浥浧浯浰浼涂涇涑涒涔涖涗涘涪涬涴涷涹涽涿淄淈淊淎淏淖淛淝淟淠淢淥淩淯淰淴淶淼渀渄渞渢"⟩,
  ⟨0x47, 0x6B, "渧渲渶渹渻渼湄湅湈湉湋湏湑湒湓湔湗湜湝湞"⟩,
  ⟨0x48, 0x21, "湢湣湨湳湻湽溍溓溙溠溧溭溮溱溳溻溿滀滁滃滇滈滊滍滎滏滫滭滮滹滻滽漄漈漊漌漍漖漘漚漛漦漩漪漯漰漳漶漻漼漭潏潑潒潓潗潙潚潝潞潡潢潨潬潽潾澃澇澈澋澌澍澐澒"⟩,
  ⟨0x48, 0x6B, "澓澔澖澚澟澠澥澦澧澨澮澯澰澵澶澼濅濇濈濊"⟩,
  ⟨0x49, 0x21, "濚濞濨濩濰濵濹濼濽瀀瀅瀆瀇瀍瀗瀠瀣瀯瀴瀷瀹瀼灃灄灈灉灊灋灔灕灝灞灎灤灥灬灮灵灶灾炁炅炆炔炕炖炗炘炛炤炫炰炱炴炷烊烑烓烔烕烖烘烜烤烺焃焄焅焆焇焋焌焏焞"⟩,
  ⟨0x49, 0x6B, "焠焫焭焯焰焱焸煁煅煆煇煊煋煐煒煗煚煜煞煠"⟩,
  ⟨0x4A, 0x21, "煨煹熀熅熇熌熒熚熛熠熢熯熰熲熳熺熿燀燁燄燋燌燓燖燙燚燜燸燾爀爇爈爉爓爗爚爝爟爤爫爯爴爸爹牁牂牃牅牎牏牐牓牕牖牚牜牞牠牣牨牫牮牯牱牷牸牻牼牿犄犉犍犎犓"⟩,
  ⟨0x4A, 0x6B, "犛犨犭犮犱犴犾狁狇狉狌狕狖狘狟狥狳狴狺狻"⟩,
  ⟨0x4B, 0x21, "狾猂猄猅猇猋猍猒猓猘猙猞猢猤猧猨猬猱猲猵猺猻猽獃獍獐獒獖獘獝獞獟獠獦獧獩獫獬獮獯獱獷獹獼玀玁玃玅玆玎玐玓玕玗玘玜玞玟玠玢玥玦玪玫玭玵玷玹玼玽玿珅珆珉"⟩,
  ⟨0x4B, 0x6B, "珋珌珏珒珓珖珙珝珡珣珦珧珩珴珵珷珹珺珻珽"⟩,
  ⟨0x4C, 0x21, "珿琀琁琄琇琊琑琚琛琤琦琨琩琪琫琬琭琮琯琰琱琹瑀瑃瑄瑆瑇瑋瑍瑑瑒瑗瑝瑢瑦瑧瑨瑫瑭瑮瑱瑲璀璁璅璆璇璉璏璐璑璒璘璙璚璜璟璠璡璣璦璨璩璪璫璮璯璱璲璵璹璻璿瓈"⟩,
  ⟨0x4C, 0x6B, "瓉瓌瓐瓓瓘瓚瓛瓞瓟瓤瓨瓪瓫瓯瓴瓺瓻瓼瓿甆"⟩,
  ⟨0x4D, 0x21, "甒甖甗甠甡甤甧甩甪甯甶甹甽甾甿畀畃畇畈畎畐畒畗畞畟畡畯畱畹畺畻畼畽畾疁疅疐疒疓疕疙疜疢疤疴疺疿痀痁痄痆痌痎痏痗痜痟痠痡痤痧痬痮痯痱痹瘀瘂瘃瘄瘇瘈瘊瘌"⟩,
  ⟨0x4D, 0x6B, "瘏瘒瘓瘕瘖瘙瘛瘜瘝瘞瘣瘥瘦瘩瘭瘲瘳瘵瘸瘹"⟩,
  ⟨0x4E, 0x21, "瘺瘼癊癀癁癃癄癅癉癋癕癙癟癤癥癭癮癯癱癴皁皅皌皍皕皛皜皝皟皠皢皣皤皥皦皧皨皪皭皽盁盅盉盋盌盎盔盙盠盦盨盬盰盱盶盹盼眀眆眊眎眒眔眕眗眙眚眜眢眨眭眮眯眴"⟩,
  ⟨0x4E, 0x6B, "眵眶眹眽眾睂睅睆睊睍睎睏睒睖睗睜睞睟睠睢"⟩,
  ⟨0x4F, 0x21, "睤睧睪睬睰睲睳睴睺睽瞀瞄瞌瞍瞔瞕瞖瞚瞟瞢瞧瞪瞮瞯瞱瞵瞾矃矉矑矒矕矙矞矟矠矤矦矪矬矰矱矴矸矻砅砆砉砍砎砑砝砡砢砣砭砮砰砵砷硃硄硇硈硌硎硒硜硞硠硡硣硤硨"⟩,
  ⟨0x4F, 0x6B, "硪确硺硾碊碏碔碘碡碝碞碟碤碨碬碭碰碱碲碳"⟩,
  ⟨0x50, 0x21, "碻碽碿磇磈磉磌磎磒磓磕磖磤磛磟磠磡磦磪磲磳礀磶磷磺磻磿礆礌礐礚礜礞礟礠礥礧礩礭礱礴礵礻礽礿祄祅祆祊祋祏祑祔祘祛祜祧祩祫祲祹祻祼祾禋禌禑禓禔禕禖禘禛禜"⟩,
  ⟨0x50, 0x6B, "禡禨禩禫禯禱禴禸离秂秄秇秈秊秏秔秖秚秝秞"⟩,
  ⟨0x51, 0x21, "秠秢秥秪秫秭秱秸秼稂稃稇稉稊稌稑稕稛稞稡稧稫稭稯稰稴稵稸稹稺穄穅穇穈穌穕穖穙穜穝穟穠穥穧穪穭穵穸穾窀窂窅窆窊窋窐窑窔窞窠窣窬窳窵窹窻窼竆竉竌竎竑竛竨"⟩,
  ⟨0x51, 0x6B, "竩竫竬竱竴竻竽竾笇笔笟笣笧笩笪笫笭笮笯笰"⟩,
  ⟨0x52, 0x21, "笱笴笽笿筀筁筇筎筕筠筤筦筩筪筭筯筲筳筷箄箉箎箐箑箖箛箞箠箥箬箯箰箲箵箶箺箻箼箽篂篅篈篊篔篖篗篙篚篛篨篪篲篴篵篸篹篺篼篾簁簂簃簄簆簉簋簌簎簏簙簛簠簥簦"⟩,
  ⟨0x52, 0x6B, "簨簬簱簳簴簶簹簺籆籊籕籑籒籓籙籚籛籜籝籞"⟩,
  ⟨0x53, 0x21, "籡籣籧籩籭籮籰籲籹籼籽粆粇粏粔粞粠粦粰粶粷粺粻粼粿糄糇糈糉糍糏糓糔糕糗糙糚糝糦糩糫糵紃紇紈紉紏紑紒紓紖紝紞紣紦紪紭紱紼紽紾絀絁絇絈絍絑絓絗絙絚絜絝絥"⟩,
  ⟨0x53, 0x6B, "絧絪絰絸絺絻絿綁綂綃綅綆綈綋綌綍綑綖綗綝"⟩,
  ⟨0x54, 0x21, "綞綦綧綪綳綶綷綹緂緃緄緅緆緌緍緎緗緙縀緢緥緦緪緫緭緱緵緶緹緺縈縐縑縕縗縜縝縠縧縨縬縭縯縳縶縿繄繅繇繎繐繒繘繟繡繢繥繫繮繯繳繸繾纁纆纇纊纍纑纕纘纚纝纞"⟩,
  ⟨0x54, 0x6B, "缼缻缽缾缿罃罄罇罏罒罓罛罜罝罡罣罤罥罦罭"⟩,
  ⟨0x55, 0x21, "罱罽罾罿羀羋羍羏羐羑羖羗羜羡羢羦羪羭羴羼羿翀翃翈翎翏翛翟翣翥翨翬翮翯翲翺翽翾翿耇耈耊耍耎耏耑耓耔耖耝耞耟耠耤耦耬耮耰耴耵耷耹耺耼耾聀聄聠聤聦聭聱聵肁"⟩,
  ⟨0x55, 0x6B, "肈肎肜肞肦肧肫肸肹胈胍胏胒胔胕胗胘胠胭胮"⟩,
  ⟨0x56, 0x21, "胰胲胳胶胹胺胾脃脋脖脗脘脜脞脠脤脧脬脰脵脺脼腅腇腊腌腒腗腠腡腧腨腩腭腯腷膁膐膄膅膆膋膎膖膘膛膞膢膮膲膴膻臋臃臅臊臎臏臕臗臛臝臞臡臤臫臬臰臱臲臵臶臸臹"⟩,
  ⟨0x56, 0x6B, "臽臿舀舃舏舓舔舙舚舝舡舢舨舲舴舺艃艄艅艆"⟩,
  ⟨0x57, 0x21, "艋艎艏艑艖艜艠艣艧艭艴艻艽艿芀芁芃芄芇芉芊芎芑芔芖芘芚芛芠芡芣芤芧芨芩芪芮芰芲芴芷芺芼芾芿苆苐苕苚苠苢苤苨苪苭苯苶苷苽苾茀茁茇茈茊茋荔茛茝茞茟茡茢茬"⟩,
  ⟨0x57, 0x6B, "茭茮茰茳茷茺茼茽荂荃荄荇荍荎荑荕荖荗荰荸"⟩,
  ⟨0x58, 0x21, "荽荿莀莂莄莆莍莒莔莕莘莙莛莜莝莦莧莩莬莾莿菀菇菉菏菐菑菔菝荓菨菪菶菸菹菼萁萆萊萏萑萕萙莭萯萹葅葇葈葊葍葏葑葒葖葘葙葚葜葠葤葥葧葪葰葳葴葶葸葼葽蒁蒅蒒"⟩,
  ⟨0x58, 0x6B, "蒓蒕蒞蒦蒨蒩蒪蒯蒱蒴蒺蒽蒾蓀蓂蓇蓈蓌蓏蓓"⟩,
  ⟨0x59, 0x21, "蓜蓧蓪蓯蓰蓱蓲蓷蔲蓺蓻蓽蔂蔃蔇蔌蔎蔐蔜蔞蔢蔣蔤蔥蔧蔪蔫蔯蔳蔴蔶蔿蕆蕏蕐蕑蕒蕓蕖蕙蕜蕝蕞蕟蕠蕡蕢蕤蕫蕯蕹蕺蕻蕽蕿薁薅薆薉薋薌薏薓薘薝薟薠薢薥薧薴薶薷薸"⟩,
  ⟨0x59, 0x6B, "薼薽薾薿藂藇藊藋藎薭藘藚藟藠藦藨藭藳藶藼"⟩,
  ⟨0x5A, 0x21, "藿蘀蘄蘅蘍蘎蘐蘑蘒蘘蘙蘛蘞蘡蘧蘩蘶蘸蘺蘼蘽虀虂虆虒虓虖虗虘虙虝虠虡虢虣虤虩虬虯虵虶虷虺蚍蚑蚖蚘蚚蚜蚡蚦蚧蚨蚭蚱蚳蚴蚵蚷蚸蚹蚿蛀蛁蛃蛅蛑蛒蛕蛗蛚蛜蛠蛣"⟩,
  ⟨0x5A, 0x6B, "蛥蛧蚈蛺蛼蛽蜄蜅蜇蜋蜎蜏蜐蜓蜔蜙蜞蜟蜡蜣"⟩,
  ⟨0x5B, 0x21, "蜨蜮蜯蜱蜲蜹蜺蜼蜽蜾蝀蝃蝅蝍蝘蝝蝡蝤蝥蝯蝱蝲蝻螃螄螅螆螇螈螉螋螌螐螓螕螗螘螙螞螠螣螧螬螭螮螱螵螾螿蟁蟈蟉蟊蟎蟕蟖蟙蟚蟜蟟蟢蟣蟤蟪蟫蟭蟱蟳蟸蟺蟿蠁蠃蠆"⟩,
  ⟨0x5B, 0x6B, "蠉蠊蠋蠐蠙蠒蠓蠔蠘蠚蠛蠜蠞蠟蠨蠭蠮蠰蠲蠵"⟩,
  ⟨0x5C, 0x21, "蠺蠼衁衃衅衈衉衊衋衎衑衕衖衘衚衜衟衠衤衩衱衹衻袀袘袚袛袜袟袠袨袪袺袽袾裀裊裋裌裍裎裑裒裓裛裞裧裯裰裱裵裷褁褆褍褎褏褕褖褘褙褚褜褠褦褧褨褰褱褲褵褹褺褾"⟩,
  ⟨0x5C, 0x6B, "襀襂襅襆襉襏襒襗襚襛襜襡襢襣襫襮襰襳襵襺"⟩,
  ⟨0x5D, 0x21, "襻襼襽覉覍覐覔覕覛覜覟覠覥覰覴覵覶覷覼觔觕觖觗觘觥觩觫觭觱觳觶觹觽觿訄訅訇訏訑訒訔訕訞訠訢訤訦訫訬訯訵訷訽訾詀詃詅詇詉詍詎詓詖詗詘詜詝詡詥詧詵詶詷詹"⟩,
  ⟨0x5D, 0x6B, "詺詻詾詿誀誃誆誋誏誐誒誖誗誙誟誧誩誮誯誳"⟩,
  ⟨0x5E, 0x21, "誶誷誻誾諃諆諈諉諊諑諓諔諕諗諝諟諬諰諴諵諶諼諿謅謆謋謑謜謞謟謊謭謰謷謼譂譃譄譅譆譈譒譓譔譙譍譞譣譭譶譸譹譼譾讁讄讅讋讍讏讔讕讜讞讟谸谹谽谾豅豇豉豋豏"⟩,
  ⟨0x5E, 0x6B, "豑豓豔豗豘豛豝豙豣豤豦豨豩豭豳豵豶豻豾貆"⟩,
  ⟨0x5F, 0x21, "貇貋貐貒貓貙貛貜貤貹貺賅賆賉賋賏賖賕賙賝賡賨賬賯賰賲賵賷賸賾賿贁贃贉贒贗贛赥赩赬赮赿趂趄趈趍趐趑趕趞趟趠趦趫趬趯趲趵趷趹趻跀跅跆跇跈跊跎跑跔跕跗跙跤"⟩,
  ⟨0x5F, 0x6B, "跥跧跬跰趼跱跲跴跽踁踄踅踆踋踑踔踖踠踡踢"⟩,
  ⟨0x60, 0x21, "踣踦踧踱踳踶踷踸踹踽蹀蹁蹋蹍蹎蹏蹔蹛蹜蹝蹞蹡蹢蹩蹬蹭蹯蹰蹱蹹蹺蹻躂躃躉躐躒躕躚躛躝躞躢躧躩躭躮躳躵躺躻軀軁軃軄軇軏軑軔軜軨軮軰軱軷軹軺軭輀輂輇輈輏輐"⟩,
  ⟨0x60, 0x6B, "輖輗輘輞輠輡輣輥輧輨輬輭輮輴輵輶輷輺轀轁"⟩,
  ⟨0x61, 0x21, "轃轇轏轑轒轓轔轕轘轝轞轥辝辠辡辤辥辦辵辶辸达迀迁迆迊迋迍运迒迓迕迠迣迤迨迮迱迵迶迻迾适逄逈逌逘逛逨逩逯逪逬逭逳逴逷逿遃遄遌遛遝遢遦遧遬遰遴遹邅邈邋邌"⟩,
  ⟨0x61, 0x6B, "邎邐邕邗邘邙邛邠邡邢邥邰邲邳邴邶邽郌邾郃"⟩,
  ⟨0x62, 0x21, "郄郅郇郈郕郗郘郙郜郝郟郥郒郶郫郯郰郴郾郿鄀鄄鄅鄆鄈鄍鄐鄔鄖鄗鄘鄚鄜鄞鄠鄥鄢鄣鄧鄩鄮鄯鄱鄴鄶鄷鄹鄺鄼鄽酃酇酈酏酓酗酙酚酛酡酤酧酭酴酹酺酻醁醃醅醆醊醎醑"⟩,
  ⟨0x62, 0x6B, "醓醔醕醘醞醡醦醨醬醭醮醰醱醲醳醶醻醼醽醿"⟩,
  ⟨0x63, 0x21, "釂釃釅釓釔釗釙釚釞釤釥釩釪釬釭釮釯釰釱釷釹釻釽鈀鈁鈄鈅鈆鈇鈉鈊鈌鈐鈒鈓鈖鈘鈜鈝鈣鈤鈥鈦鈨鈮鈯鈰鈳鈵鈶鈸鈹鈺鈼鈾鉀鉂鉃鉆鉇鉊鉍鉎鉏鉑鉘鉙鉜鉝鉠鉡鉥鉧鉨"⟩,
  ⟨0x63, 0x6B, "鉩鉮鉯鉰鉵鉶鉷鉸鉹鉻鉼鉽鉿銈銉銊銍銎銒銗"⟩,
  ⟨0x64, 0x21, "銙銟銠銤銥銧銨銫銯銲銶銸銺銻銼銽銿鋀鋁鋂鋃鋅鋆鋇鋈鋋鋌鋍鋎鋐鋓鋕鋗鋘鋙鋜鋝鋟鋠鋡鋣鋥鋧鋨鋬鋮鋰鋹鋻鋿錀錂錈錍錑錔錕錜錝錞錟錡錤錥錧錩錪錳錴錶錷鍇鍈鍉"⟩,
  ⟨0x64, 0x6B, "鍐鍑鍒鍕鍗鍘鍚鍞鍤鍥鍧鍩鍪鍭鍯鍰鍱鍳鍴鍶"⟩,
  ⟨0x65, 0x21, "鍺鍽鍿鎀鎁鎂鎈鎊鎋鎍鎏鎒鎕鎘鎛鎞鎡鎣鎤鎦鎨鎫鎴鎵鎶鎺鎩鏁鏄鏅鏆鏇鏉鏊鏋鏌鏍鏓鏙鏜鏞鏟鏢鏦鏧鏹鏷鏸鏺鏻鏽鐁鐂鐄鐈鐉鐍鐎鐏鐕鐖鐗鐟鐮鐯鐱鐲鐳鐴鐻鐿鐽鑃鑅"⟩,
  ⟨0x65, 0x6B, "鑈鑊鑌鑕鑙鑜鑟鑡鑣鑨鑫鑭鑮鑯鑱鑲钄钃镸镹"⟩,
  ⟨0x66, 0x21, "镾閄閈閌閍閎閝閞閟閡閦閩閫閬閴閶閺閽閿闆闈闉闋闐闑闒闓闙闚闝闞闟闠闤闦阝阞阢阤阥阦阬阱阳阷阸阹阺阼阽陁陒陔陖陗陘陡陮陴陻陼陾陿隁隂隃隄隉隑隖隚隝隟隤"⟩,
  ⟨0x66, 0x6B, "隥隦隩隮隯隳隺雊雒嶲雘雚雝雞雟雩雯雱雺霂"⟩,
  ⟨0x67, 0x21, "霃霅霉霚霛霝霡霢霣霨霱霳靁靃靊靎靏靕靗靘靚靛靣靧靪靮靳靶靷靸靻靽靿鞀鞉鞕鞖鞗鞙鞚鞞鞟鞢鞬鞮鞱鞲鞵鞶鞸鞹鞺鞼鞾鞿韁韄韅韇韉韊韌韍韎韐韑韔韗韘韙韝韞韠韛"⟩,
  ⟨0x67, 0x6B, "韡韤韯韱韴韷韸韺頇頊頙頍頎頔頖頜頞頠頣頦"⟩,
  ⟨0x68, 0x21, "頫頮頯頰頲頳頵頥頾顄顇顊顑顒顓顖顗顙顚顢顣顥顦顪顬颫颭颮颰颴颷颸颺颻颿飂飅飈飌飡飣飥飦飧飪飳飶餂餇餈餑餕餖餗餚餛餜餟餢餦餧餫餱餲餳餴餵餹餺餻餼饀饁饆"⟩,
  ⟨0x68, 0x6B, "饇饈饍饎饔饘饙饛饜饞饟饠馛馝馟馦馰馱馲馵"⟩,
  ⟨0x69, 0x21, "馹馺馽馿駃駉駓駔駙駚駜駞駧駪駫駬駰駴駵駹駽駾騂騃騄騋騌騐騑騖騞騠騢騣騤騧騭騮騳騵騶騸驇驁驄驊驋驌驎驑驔驖驝骪骬骮骯骲骴骵骶骹骻骾骿髁髃髆髈髎髐髒髕髖"⟩,
  ⟨0x69, 0x6B, "髗髛髜髠髤髥髧髩髬髲髳髵髹髺髽髿鬀鬁鬂鬃"⟩,
  ⟨0x6A, 0x21, "鬄鬅鬈鬉鬋鬌鬍鬎鬐鬒鬖鬙鬛鬜鬠鬦鬫鬭鬳鬴鬵鬷鬹鬺鬽魈魋魌魕魖魗魛魞魡魣魥魦魨魪魫魬魭魮魳魵魷魸魹魿鮀鮄鮅鮆鮇鮉鮊鮋鮍鮏鮐鮔鮚鮝鮞鮦鮧鮩鮬鮰鮱鮲鮷鮸鮻"⟩,
  ⟨0x6A, 0x6B, "鮼鮾鮿鯁鯇鯈鯎鯐鯗鯘鯝鯟鯥鯧鯪鯫鯯鯳鯷鯸"⟩,
  ⟨0x6B, 0x21, "鯹鯺鯽鯿鰀鰂鰋鰏鰑鰖鰘鰙鰚鰜鰞鰢鰣鰦鰧鰨鰩鰪鰱鰵鰶鰷鰽鱁鱃鱄鱅鱉鱊鱎鱏鱐鱓鱔鱖鱘鱛鱝鱞鱟鱣鱩鱪鱜鱫鱨鱮鱰鱲鱵鱷鱻鳦鳲鳷鳹鴋鴂鴑鴗鴘鴜鴝鴞鴯鴰鴲鴳鴴鴺"⟩,
  ⟨0x6B, 0x6B, "鴼鵅鴽鵂鵃鵇鵊鵓鵔鵟鵣鵢鵥鵩鵪鵫鵰鵶鵷鵻"⟩,
  ⟨0x6C, 0x21, "鵼鵾鶃鶄鶆鶊鶍鶎鶒鶓鶕鶖鶗鶘鶡鶪鶬鶮鶱鶵鶹鶼鶿鷃鷇鷉鷊鷔鷕鷖鷗鷚鷞鷟鷠鷥鷧鷩鷫鷮鷰鷳鷴鷾鸊鸂鸇鸎鸐鸑鸒鸕鸖鸙鸜鸝鹺鹻鹼麀麂麃麄麅麇麎麏麖麘麛麞麤麨麬"⟩,
  ⟨0x6C, 0x6B, "麮麯麰麳麴麵黆黈黋黕黟黤黧黬黭黮黰黱黲黵"⟩,
  ⟨0x6D, 0x21, "黸黿鼂鼃鼉鼏鼐鼑鼒鼔鼖鼗鼙鼚鼛鼟鼢鼦鼪鼫鼯鼱鼲鼴鼷鼹鼺鼼鼽鼿齁齃齄齅齆齇齓齕齖齗齘齚齝齞齨齩齭齮齯齰齱齳齵齺齽龏龐龑龒龔龖龗龞龡龢龣龥"⟩]

/-- What the second extension adds among the basic characters; of two in a cell, the first. -/
def kanjiNew : DoubleByte := [
  ⟨0x22, 0x2F, "＇＂－～〳〴〵〻〼ヿゟ"⟩,
  ⟨0x22, 0x42, "⊄⊅⊊⊋∉∅⌅⌆"⟩,
  ⟨0x22, 0x51, "⊕⊖⊗∥∦⦅⦆〘〙〖〗"⟩,
  ⟨0x22, 0x6B, "≢≃≅≈≶≷↔"⟩,
  ⟨0x22, 0x7A, "♮♫♬♩"⟩,
  ⟨0x23, 0x21, "▷▶◁◀↗↘↖↙⇄⇨⇦⇧⇩⤴⤵"⟩,
  ⟨0x23, 0x3A, "⦿◉〽﹆﹅◦•"⟩,
  ⟨0x23, 0x5B, "∓ℵℏ㏋ℓ℧"⟩,
  ⟨0x23, 0x7B, "゠–⧺⧻"⟩,
  ⟨0x24, 0x74, "ゔゕゖかきくけこ"⟩,
  ⟨0x25, 0x77, "カキクケコセツト"⟩,
  ⟨0x26, 0x39, "♤♠♢♦♡♥♧♣"⟩,
  ⟨0x26, 0x59, "ς⓵⓶⓷⓸⓹⓺⓻⓼⓽⓾☖☗〠☎☀☁☂☃♨▱ㇰㇱㇲㇳㇴㇵㇶㇷㇸㇹㇷㇺㇻㇼㇽㇾㇿ"⟩,
  ⟨0x27, 0x42, "⎾⎿⏀⏁⏂⏃⏄⏅⏆⏇⏈⏉⏊⏋⏌"⟩,
  ⟨0x27, 0x72, "ヷヸヹヺ⋚⋛⅓⅔⅕✓⌘␣⏎"⟩,
  ⟨0x28, 0x41, "㉑㉒㉓㉔㉕㉖㉗㉘㉙㉚㉛㉜㉝㉞㉟㊱㊲㊳㊴㊵㊶㊷㊸㊹㊺㊻㊼㊽㊾㊿"⟩,
  ⟨0x28, 0x67, "◐◑◒◓‼⁇⁈⁉ǍǎǐḾḿǸǹǑǒǔǖǘǚǜ"⟩,
  ⟨0x29, 0x21, "€\u00a0¡¤¦©ª«\u00ad®¯²³·¸¹º»¼½¾¿ÀÁÂÃÄÅÆÇÈÉÊËÌÍÎÏÐÑÒÓÔÕÖØÙÚÛÜÝÞßàáâãäåæçèéê"⟩,
  ⟨0x29, 0x61, "ëìíîïðñòóôõöøùúûüýþÿĀĪŪĒŌāīūēō"⟩,
  ⟨0x2A, 0x21, "Ą˘ŁĽŚŠŞŤŹŽŻą˛łľśˇšşťź˝žżŔĂĹĆČĘĚĎŃŇŐŘŮŰŢŕăĺćčęěďđńňőřůűţ˙ĈĜĤĴŜŬĉĝĥĵŝŭɱʋɾʃʒɬ"⟩,
  ⟨0x2A, 0x6B, "ɮɹʈɖɳɽʂʐɻɭɟɲʝʎɡŋɰʁħʕ"⟩,
  ⟨0x2B, 0x21, "ʔɦʘǂɓɗʄɠƓœŒɨʉɘɵəɜɞɐɯʊɤʌɔɑɒʍɥʢʡɕʑɺɧɚæǽὰάɔɔʌʌəəɚɚὲέ\u0361ˈˌːˑ\u0306‿\u030b"⟩,
  ⟨0x2B, 0x5A, "\u0301\u0304\u0300\u030f\u030c\u0302˥˦˧˨˩˩˥\u0325\u032c\u0339\u031c\u031f"⟩,
  ⟨0x2B, 0x6C, "\u0320\u0308\u033d\u0329\u032f˞\u0324\u0330\u033c\u0334\u031d\u031e\u0318"⟩,
  ⟨0x2B, 0x79, "\u0319\u032a\u033a\u033b\u0303\u031a"⟩,
  ⟨0x2C, 0x21, "❶❷❸❹❺❻❼❽❾❿⓫⓬⓭⓮⓯⓰⓱⓲⓳⓴ⅰⅱⅲⅳⅴⅵⅶⅷⅸⅹⅺⅻⓐⓑⓒⓓⓔⓕⓖⓗⓘⓙⓚⓛⓜⓝⓞⓟⓠⓡⓢⓣⓤⓥⓦⓧⓨⓩ㋐㋑㋒㋓㋔㋕㋖㋗㋘㋙㋚㋛㋜㋝㋞㋟"⟩,
  ⟨0x2C, 0x6B, "㋠㋡㋢㋣㋺㋩㋥㋭㋬"⟩,
  ⟨0x2C, 0x7D, "⁑⁂"⟩,
  ⟨0x2D, 0x21, "①②③④⑤⑥⑦⑧⑨⑩⑪⑫⑬⑭⑮⑯⑰⑱⑲⑳ⅠⅡⅢⅣⅤⅥⅦⅧⅨⅩⅪ㍉㌔㌢㍍㌘㌧㌃㌶㍑㍗㌍㌦㌣㌫㍊㌻㎜㎝㎞㎎㎏㏄㎡Ⅻ"⟩,
  ⟨0x2D, 0x5F, "㍻〝〟№㏍℡㊤㊥㊦㊧㊨㈱㈲㈹㍾㍽㍼���∮"⟩,
  ⟨0x2D, 0x78, "∟⊿���❖☞"⟩,
  ⟨0x2E, 0x21, "俱𠀋㐂丨丯丰亍仡份仿伃伋你佈佉佖佟佪佬佾侊侔侗侮俉俠倁倂倎倘倧倮偀倻偁傔僌僲僐僦僧儆儃儋儞儵兊免兕兗㒵冝凃凊凞凢凮刁㓛刓刕剉剗剡劓勈勉勌勐勖勛勤勰勻"⟩,
  ⟨0x2E, 0x6B, "匀匇匜卑卡卣卽厓厝厲吒吧呍咜呫呴呿咈咖咡"⟩,
  ⟨0x2F, 0x21, "咩哆哿唎唫唵啐啞喁喆喎喝喭嗎嘆嘈嘎嘻噉噶噦器噯噱噲嚙嚞嚩嚬嚳囉囊圊𡈽圡圯圳圴坰坷坼垜﨏𡌛垸埇埈埏埤埭埵埶埿堉塚塡塤塀塼墉增墨墩𡑮壒壎壔壚壠壩夌虁奝奭"⟩,
  ⟨0x2F, 0x6B, "妋妒妤姃姒姝娓娣婧婭婷婾媄媞媧嫄𡢽嬙嬥剝"⟩,
  ⟨0x4F, 0x54, "𠮟孁孖孽宓寘寬尒尞尣尫㞍屢層屮𡚴屺岏岟岣岪岺峋峐峒峴𡸴㟢崍崧﨑嵆嵇嵓嵊嵭嶁嶠嶤嶧嶸巋吞"⟩,
  ⟨0x74, 0x27, "噓巢帔帘幘幞庾廊廋廹开异弇弝弣弴弶弽彀彅彔彘彤彧彽徉徜徧徯徵德忉忞忡忩怍怔怘怳怵恇悔悝悞惋惔惕惝惸愜愫愰愷慨憍憎憼憹懲戢戾扃扖扚扯抅拄拖拼挊挘挹捃捥"⟩,
  ⟨0x74, 0x71, "捼揥揭揵搐搔搢摹摑摠摭擎撾撿"⟩,
  ⟨0x75, 0x21, "擄擊擐擷擻攢攩敏敧斝既昀昉昕昞昺昢昤昫昰昱昳曻晈晌𣇄晙晚晡晥晳晷晸暍暑暠暲暻曆曈㬢曛曨曺朓朗朳杦杇杈杻极枓枘枛枻柹柀柗柼栁桒栝栬栱桛桲桵梅梣梥梲棈棐"⟩,
  ⟨0x75, 0x6B, "棨棭棰棱棼椊楉𣗄椵楂楗楣楤楨榀﨔榥榭槏㮶"⟩,
  ⟨0x76, 0x21, "㯃槢槩槪槵槶樏樕𣜿樻樾橅橐橖橛橫橳𣝣檉檔檝檞檥櫤櫧㰏欄欛欞欬欵歆歖歠步歧歷殂殩殭殺每毖毗毿氅氐氳汙汜沪汴汶沅沆沘沜泻泆泔泠泫泮𣳾洄洎洮洱洹洿浘浥海涂"⟩,
  ⟨0x76, 0x6B, "涇涉涔涪涬涿淄淖淚淛淝淼渚渴湄湜湞溫溱滁"⟩,
  ⟨0x77, 0x21, "滇滎漐漚漢漪漯漳潑潙潞潡潢潾澈澌澍澔澠澧澶澼濇濊濹濰濵瀅瀆瀨灊灝灞灎灤灵炅炤炫炷烔烘烤焏焫焞焠焮焰煆煇煑煮煒煜煠煨凞熅熇熒燁熺燄燾爀爕牕牖㸿犍犛犾狀"⟩,
  ⟨0x77, 0x6B, "狻𤟱猧猨猪獐獦獼玕玟玠玢玦玫珉珏珖珙珣珩"⟩,
  ⟨0x78, 0x21, "琇琊琚琛琢琦琨琪琫琬琮琯琰瑄瑆瑇瑋瑗瑢瑫瑭璆璇璉璘璜璟璣璐璦璨璩璵璿瓈瓉瓚瓿甁甗甯畯畹疒㽲痎痤瘀瘂瘈瘕瘖瘙瘞瘭瘵癃癋癤癥癭癯癱皁皛皝皞皦皪皶盅盌盎盔"⟩,
  ⟨0x78, 0x6B, "盦盱盼眊眙眴眶睆睍睎睜睟睢睺瞀瞔瞪矠砭𥒎"⟩,
  ⟨0x79, 0x21, "硃硎硏硑硨确碑碰𥔎碭磤磲礀磷礜礮礱礴社祉祅祆祈祐祖祜祝神祥祹禍禎福禘禱禸秈秊𥝱秔秞秫秭稃穀稹穝穭突窅窠𥧄窳窻竎竫竽笒笭笻筇筎筠筭筯筲箞節篗篙簁簱簞簠"⟩,
  ⟨0x79, 0x6B, "簳簶䉤𥶡籙籭籹粏粔粠粼糕糙糝紇紈紓紝紣紱"⟩,
  ⟨0x7A, 0x21, "絁絈絓絜絺綃綋綠綦緂緌緖緣練縨縈縑縕繁繇繒繡纊纍罇署羑羗羿翎翛翟翬翮翺者耔耦耵耷耼胊胗胠胳脘腊腠腧腨腭膻臊臏臗臭䑓䑛艠艴𦫿芎芡芣芤芩芮芷芾芿苆苕苽苾"⟩,
  ⟨0x7A, 0x6B, "茀茁荢茢茭茺荃荇荑荕荽莆莒莘莧莩莿菀菇菏"⟩,
  ⟨0x7B, 0x21, "菑菡菪萁萆萊著葈葟葰葳蒅蒞蒯蒴蒺蓀蓂𦹀蔲蔞蔣蔯蕙蕤﨟薭蕺薌薏薢薰藋藎藭蘒藿蘄蘅蘐𧃴蘘蘩蘸虗虛虜虢䖝虬虵蚘蚸蛺蛼蛽蜋蝱螇螈螬螭螵䗪蟖蟬蠆蠊蠐蠔蠟袘袪裊"⟩,
  ⟨0x7B, 0x6B, "裎𧚄裵褜褐褘褙褚褧褰褲褹襀覔視觔觥觶訒訕"⟩,
  ⟨0x7C, 0x21, "訢訷詇詎詝詡詵詹誧諐諟諴諶諸謁謹譆譔譙譩讝豉豨賓賡賴賸賾贈贒贛趯跎跑跗踠踣踽蹰蹻𨉷軀䡄軺輞輭輶轔𨏍辦辵迤迨迮逈逭逸邈邕邗邙邛邢邳邾郄郅郇郗郝郞郯郴都"⟩,
  ⟨0x7C, 0x6B, "鄔鄕鄖鄢鄣鄧鄯鄱鄴鄽酈酛醃醞醬醱醼釗釻釤"⟩,
  ⟨0x7D, 0x21, "釥釭釱鈇鈐鈸鈹鈺鈼鉀鉃鉏鉸銈鋂鋋鋌鋓鋠鋿錄錟錡錥鍈鍉鍊鍤鍥鍪鍰鎛鎣鎺鏆鏞鏟鐄鏽鐳鑊鑣鑫鑱鑲閎閟閦閩閬閶閽闋闐闓䦰闚闞陘隄隆隝隤隥雒雞難雩雯霳霻靍靎靏"⟩,
  ⟨0x7D, 0x6B, "靚靮靳鞕鞮鞺韁韉韞韛韴響頊頞頫頰頻顒顓顖"⟩,
  ⟨0x7E, 0x21, "顗顙顚類顥顬颺飈飧饘馞騂騃騤騭騮騸驊驎驒骶髁髃髎髖髹鬂鬈鬠䰗鬭魞魹魦魲魵鮄鮊鮏鮞鮧鯁鯎鯥鯸鯽鰀鰣鱁鱏鱐鱓鱣鱥鱷鴝鴞鵃鵇鵒鵣鵰鵼鶊鶖鷀鶬鶼鷗𪆐鷧鸇鸕鹼"⟩,
  ⟨0x7E, 0x6B, "麞麤麬麯麴麵黃黑鼐鼹齗龐龔龗龢姸屛幷瘦繫"⟩]

/-- The characters that the second extension puts beside the basic ones. -/
def kanjiSecond : DoubleByte := [
  ⟨0x21, 0x21, "𠂉丂丏丒丩丫丮乀乇么𠂢乑㐆𠂤乚乩亝㐬㐮亹亻𠆢亼仃仈仐仫仚仱仵伀伖佤伷伾佔佘𠈓佷佸佺佽侂侅侒侚俦侲侾俅俋俏俒㑪俲倀倐倓倜倞倢㑨偂偆偎偓偗偣偦偪偰傣傈傒"⟩,
  ⟨0x21, 0x6B, "傓傕傖傜傪𠌫傱傺傻僄僇僳𠎁僎𠍱僔僙僡僩㒒"⟩,
  ⟨0x23, 0x21, "儈𠏹儗儛𠑊兠𠔉关冃冋㒼冘冣冭㓇冼𠗖𠘨凳凴刂划刖𠝏剕剜剬剷劄劂𠠇劘𠠺劤劦劯劺劻勊㔟勑𠢹勷匊匋匤匵匾卂𠥼𠦝卧卬卺厤厴𠫓厷叀𠬝㕝㕞叕叚㕣叴叵呕吤吨㕮呃呢呦"⟩,
  ⟨0x23, 0x6B, "呬咊咍咕咠咦咭咮咷咺咿哃𠵅哬哯哱哳唀唁唉"⟩,
  ⟨0x24, 0x21, "唼啁㖦啇啊㖨啠啡啤𠷡啽喂喈喑㗅嗒𠺕𠹭喿嗉嗌嗑嗝㗚嗢𠹤嗩嘨𠽟嘇嘐嘰嘷㗴嘽嘿噀噇噞噠噭㘅嚈嚌嚕嚚嚝嚨嚭嚲囅囍囟囨囶囷𡈁圕圣𡉕圩𡉻坅坆坌坍𡉴坨坯坳坴坵坻𡋤"⟩,
  ⟨0x24, 0x6B, "𡋗垬垚垝垞垨埗𡋽埌𡌶𡍄埞埦埰㙊埸埻埽堄堞"⟩,
  ⟨0x25, 0x21, "堠堧堲堹𡏄塉塌塧墊墋墍墏墐墔墝墪墱𡑭壃壍壢壳壴夅夆夋复夔夤𡗗㚑夽㚙奆㚖𦰩奛奟𡙇奵奶奼妟妮妼姈姍姞姣姤姧姮𡜆𡝂㛏娌娍娗娧娭婕婥婺媋媜媟媠媢媱媳媵媺媿嫚"⟩,
  ⟨0x25, 0x6B, "嫜嫠嫥嫰嫮嫵嬀嬈嬗嬴嬭孌孒孨孯孼孿宁宄𡧃"⟩,
  ⟨0x28, 0x21, "宖宬㝡寀㝢寎寖㝬㝫寱寽㝵尃尩尰𡱖屟屣屧屨屩屰𡴭𡵅屼𡵸𡵢岈岊㟁𡶡𡶜岠岢岦岧𡶒岭岵𡶷峉𡷠𡸳崆崐崫崝崠崤崦崱崹嵂㟨嵡嵪㟴嵰𡼞㟽嶈㠀嶒嶔嶗嶙嶰嶲嶴𡽶嶹巑巗巘"⟩,
  ⟨0x28, 0x6B, "巠𡿺巤巩㠯帀㠶帒帕㡀帟帮帾幉㡜幖㡡幫幬幭"⟩,
  ⟨0x2C, 0x21, "幮𢅻庥庪庬庹庿廆廒廙𢌞廽弈弎弜𢎭弞彇彣彲彾徏徢徤徸忄㣺忇忋忒忓忔忢忮忯忳忼㤗怗怢怤㤚恌恿悊悕您𢛳悰悱悾惈惙惛惮惲惵愐愒愓愙愞愺㥯慁慆慠慼𢡛憒憓憗憘憥"⟩,
  ⟨0x2C, 0x6B, "憨憭𢢫懕懝懟懵𢦏戕戣戩扆扌扑扒扡扤扻扭扳"⟩,
  ⟨0x2D, 0x21, "抙抦拕𢪸拽挃挍挐𢭏𢭐挲挵挻挼捁捄捎𢭆捙𢰝𢮦捬掄掙𢰤掔掽揷揔揕揜揠揫揬揲搉搞搥搩搯摚摛摝摳摽撇撑撝撟擋擌擕擗𢷡擤擥擿攄㩮攏攔攖㩳攞攲敄敔敫敺斁斄斅斊斲"⟩,
  ⟨0x2D, 0x6B, "斵斸斿旂旉旔㫖旲旹旼昄昈昡昪晅晑晎㫪𣇃晗"⟩,
  ⟨0x2E, 0x21, "晛晣𣇵𣆶晪晫晬晭晻暀暐暒暙㬎暭暱暵㬚暿㬜曬㫗朁朅朒𣍲朙𣏓𣏒杌杍杔杝𣏐𣏤𣏕杴杶𣏚枒𣏟荣栐枰枲柃柈柒柙柛柰柷𣑊𣑑𣑋栘栟栭𣑥栳栻栾桄桅桉桌桕桗㭷桫桮桺桼梂"⟩,
  ⟨0x2E, 0x6B, "梐梖㭭梘梙梚梜梪梫梴梻棻𣓤𣕚﨓棃棅棌棏棖"⟩,
  ⟨0x2F, 0x21, "棙棤棥棬棷椃椇㮇㮈𣖔椻㮍楆楩楬楲楺楿榒㮤榖榘榦榰榷榺榼槀槑槖𣘹𣙇樰𣘸𣘺槣槮槯槳㯍槴槾樑樚樝𣜜樲樳樴樿橆橉橺橎橒橤𣜌橾檃檋㯰檑檟檡𣝤檫檽櫆櫔櫐櫜櫝𣟿𣟧"⟩,
  ⟨0x2F, 0x6B, "櫬櫱櫲櫳櫽𣠤欋欏欐欑𣠽欗㰦欯歊歘歬歵歺殁"⟩,
  ⟨0x6E, 0x21, "殛殮𣪘殽殾毇毈毉毚毦毧毮毱氂氊氎氵氶氺𣱿氿汍汛汭沄沉㳃沔沕沗沭泂泐㳒泖泚泜泩泬泭𣴀洀洊洤洦洧汧洯洼浛浞浠浰涀涁涊涍涑涘𣵀渗𣷺𣷹𣷓涫涮涴淂洴淈淎淏淐淟"⟩,
  ⟨0x6E, 0x6B, "淩淶渶渞渢渧㴑渲渼湈湉湋湌湏湑湓湔湗湣㴞"⟩,
  ⟨0x6F, 0x21, "溓溧溴溿滃滊滙漵滫滹滻漊漌漘漥漶漼𣽾潒潗潚潠潨澘潽澐澖澾澟澥澯㵤澵濈濉濚濞濩𤂖濼瀀瀇瀊瀣𤄃瀹瀺瀼灃灇灋㶚灔灥灩灬灮灶灾炁炆炕炗炻𤇆炟炱𤇾烬烊烑烓烜焃"⟩,
  ⟨0x6F, 0x6B, "焄焆焇焈焌㷀焯焱煐煊煓煞㷔熖熀熛熠熢熮熯"⟩,
  ⟨0x70, 0x21, "熳𤎼燋燓燙燜爇㸅爫爫爴爸爹丬牂牓牗牣𤘩牮牯牸牿犎𤚥犭犮犰犱狁㹠狌㹦㹨狳狺猇猒猘猙㺃猹猬猱猳猽獒㺔獫獬𤢖獮獯獱獷玁玅玊玔玘玜玞玥玨玵玷玹玼玿珅珋珡珧珹"⟩,
  ⟨0x70, 0x6B, "琓珺琁琤琱琹瑓瑀瑃瑍瑒瑝瑱璁璅璈𤩍璒璗璙"⟩,
  ⟨0x71, 0x21, "璠璡璥璪璫璹璻璺瓖瓘瓞瓯瓫𤭖瓺𤭯甠甤甪㽗𤰖甽甾畀畈畎畐畒畬畲畱畺畽畾疁𤴔疌㽵疢㽷疰疷疿痀痆痏痓痝痟痠痧痬痮痱痹瘃瘘瘇瘏㾮𤸎瘓瘛瘜𤸷瘥瘨瘼瘳𤹪㿉癁𤺋癉"⟩,
  ⟨0x71, 0x6B, "癕㿗癮皕皜皡皠皧皨皯𥁊盉𥁕盨盬𥄢眗眚眭眵"⟩,
  ⟨0x72, 0x21, "𥆩䀹𥇥𥇍睘睠睪𥈞睲睼睽𥉌䁘瞚瞟瞢瞤瞩矞矟矤矦矪矬䂓矰矴矻𥐮砅砆砉砍砙砡砬硇硤硪𥓙碊碔碤碝碞碟碻磈磌磎磕磠磡磦磹磺磻磾𥖧礐礛礰礥礻祊祘祛䄅祧祲禔禕禖禛"⟩,
  ⟨0x72, 0x6B, "禡禩禴离秂秇秌种秖䅈𥞩𥞴䅏稊稑稕稛稞䅣稭"⟩,
  ⟨0x73, 0x21, "稸穇穌穖穙穜穟穠穧穪穵穸窂窊窐窣窬𥧔䆴窹窼窾䆿竌竑竧竨竴𥫤𥫣笇𥫱笽笧笪笮笯笱䇦䇳筿筁䇮筕筹筤筦筩筳𥮲䈇箐箑箛䈎箯箵箼篅篊𥱋𥱤篔篖篚篪篰簃簋簎簏簦籅籊"⟩,
  ⟨0x73, 0x6B, "籑籗籞籡籩籮籯籰𥸮𥹖𥹥粦𥹢粶粷粿𥻘糄𥻂糈"⟩,
  ⟨0x74, 0x21, "糍𥻨糗𥼣糦糫𥽜糵紃紉䋆紒紞𥿠𥿔紽紾絀絇𦀌𥿻䋖絙絚絪絰䋝絿𦀗綆綈綌綗𦁠綝綧綪綶綷緀緗緙緦緱緹䌂𦃭縉縐縗縝縠縧縬繅繳繵繾纆纇䌫纑纘纚䍃缼缻缾罃罄罏㓁𦉰罒"⟩,
  ⟨0x74, 0x6B, "𦊆罡罣罤罭罽罾𦍌羐养𣴎羖羜羭𦐂翃翏翣翥翯"⟩,
  ⟨0x75, 0x21, "翲耂耊耈耎耑耖耤耬耰聃聦聱聵聻肙肜肤肧肸𦙾胅胕胘胦𦚰脍胵胻䏮脵脖脞䏰脤脧脬𦜝脽䐈腩䐗膁䐜膄膅䐢膘膲臁臃臖臛𦣝臤𦣪臬𦥑臽臿𦥯舄𦧝舙舡舢𦨞舲舴舼艆艉艅𦩘"⟩,
  ⟨0x75, 0x6B, "艋䑶艏䑺艗𦪌艜艣𦪷艹艹艹䒑艽艿芃芊芓芧芨"⟩,
  ⟨0x76, 0x21, "芲芴芺芼苢苨苷茇茈茌荔茛茝茰茼荄荗䒾荿䓔䒳莍莔莕莛莝菉菐菔菝菥菹萏萑萕𦱳萗萹葊葏葑葒葙葚葜𦳝葥葶葸葼蒁䔍蓜蒗蒦蒾䔈蓎蓏蓓𦹥蓧蓪蓯蓰蓱蓺蓽蔌蔛蔤蔥蔫蔴"⟩,
  ⟨0x76, 0x6B, "蕏蕯䔥䕃蔾蕑蕓蕞蕡蕢𦾔蕻蕽蕿薁薆薓薝薟𦿸"⟩,
  ⟨0x77, 0x21, "𦿶𦿷薷薼藇藊藘藙藟藡藦藶蘀蘑蘞蘡蘤蘧𧄍蘹蘼𧄹虀蘒虓虖虯虷虺蚇蚉蚍蚑蚜蚝蚨﨡蚱蚳蛁蛃蛑蛕蛗蛣蛦䖸蜅蜇蜎蜐蜓蜙蜟蜡蜣蜱蜺蜾蝀蝃蝑蝘蝤蝥蝲蝼𧏛𧏚螧螉螋螓螠"⟩,
  ⟨0x77, 0x6B, "𧏾䗥螾𧐐蟁蟎蟵蟟𧑉蟣蟥蟦蟪蟫蟭蠁蠃蠋蠓蠨"⟩,
  ⟨0x78, 0x21, "蠮蠲蠼䘏衊衘衟衤𧘕𧘔衩𧘱衯袠袼袽袾裀裒𧚓裑裓裛裰裱䙁褁𧜎褷𧜣襂襅襉𧝒䙥襢覀覉覐覟覰覷觖觘觫䚡觱觳觽觿䚯訑訔𧦅訡訵訾詅詍詘誮誐誷誾諗諼𧪄謊謅謍謜謟謭譃"⟩,
  ⟨0x78, 0x6B, "䜌譑譞譶譿讁讋讔讕讜讞谹𧮳谽𧮾𧯇豅豇豏豔"⟩,
  ⟨0x79, 0x21, "豗豩豭豳𧲸貓貒貙䝤貛貤賖賕賙𧶠賰賱𧸐贉贎赬趄趕趦𧾷跆跈跙跬踌䟽跽踆𨂊踔踖踡踢踧𨂻䠖踶踹蹋蹔蹢蹬蹭蹯躘躞躮躳躵躶躻𨊂軑軔䡎軹𨋳輀輈輗輫轀轊轘𨐌辤辴辶辶"⟩,
  ⟨0x79, 0x6B, "𨑕迁迆﨤迊迍迓迕迠迱迵迻适逌逷𨕫遃遄遝𨗈"⟩,
  ⟨0x7A, 0x21, "𨗉邅邌邐阝邡䢵邰邶郃郈𨛗郜郟𨛺郶郲鄀郫郾郿鄄鄆鄘鄜鄞鄷鄹鄺酆酇酗酙酡酤酴酹醅醎醨醮醳醶釃釄釚𨥉𨥆釬釮鈁鈊鈖鈗𨥫鈳鉂鉇鉊鉎鉑鉖鉙鉠鉡鉥鉧鉨𨦇𨦈鉼鉽鉿銉"⟩,
  ⟨0x7A, 0x6B, "銍銗銙銟銧銫𨦺𨦻銲銿鋀鋆鋎鋐鋗鋙鋥鋧錑𨨞"⟩,
  ⟨0x7B, 0x21, "𨨩鋷鋹鋻錂錍錕錝錞錧錩𨩱𨩃鍇鍑鍗鍚鍫鍱鍳鎡𨪙𨫍鎈鎋鎏鎞鏵𨫤𨫝鏱鏁鏇鏜鏢鏧鐉鐏鐖鐗鏻鐲鐴鐻鑅𨯁𨯯鑭鑯镸镹閆閌閍𨴐閫閴𨵱闈𨷻𨸟阬阳阴𨸶阼陁陡𨺉隂𨻫隚𨼲䧧"⟩,
  ⟨0x7B, 0x6B, "隩隯隳隺隽䧺𨿸雘雚雝䨄霔霣䨩霶靁靇靕靗靛"⟩,
  ⟨0x7C, 0x21, "靪𩊠𩊱鞖鞚鞞鞢鞱鞲鞾韌韑韔韘韙韡韱頄頍頎頔頖䪼𩒐頣頲頳頥顇顦颫颭颰𩗏颷颸颻颼颿飂飇飋飠𩙿飡飣飥飪飰飱飳餈䬻𩛰餖餗𩜙餚餛餜𩝐餱餲餳餺餻餼饀饁饆饍饎饜饟"⟩,
  ⟨0x7C, 0x6B, "饠馣馦馹馽馿駃駉駔駙駞𩣆駰駹駼騊騑騖騚騠"⟩,
  ⟨0x7D, 0x21, "騱騶驄驌驘䯂骯䯊骷䯒骹𩩲髆髐髒髕䯨髜髠髥髩鬃鬌鬐鬒鬖鬜鬫鬳鬽䰠魋魣魥魫魬魳魶魷鮦鮬鮱𩷛𩸽鮲鮸鮾鯇鯳鯘鯝鯧鯪鯫鯯鯮𩸕鯺𩺊鯷𩹉鰖鰘鰙鰚鰝鰢鰧鰩鰪𩻄鰱鰶鰷"⟩,
  ⟨0x7D, 0x6B, "鱅鱜𩻩鱉鱊𩻛鱔鱘鱛鱝鱟鱩鱪鱫鱭鱮鱰鱲鱵鱺"⟩,
  ⟨0x7E, 0x21, "鳦鳲鴋鴂𩿎鴑鴗鴘𪀯䳄𪀚鴲䳑鵂鵊鵟鵢𪃹鵩鵫𪂂鵳鵶鵷鵾鶄鶍鶙鶡鶿鶵鶹鶽鷃鷇鷉鷖鷚鷟鷠鷣鷴䴇鸊鸂鸍鸙鸜鸝鹻𢈘麀麅麛麨𪎌麽𪐷黟黧黮黿鼂䵷鼃鼗鼙鼯鼷鼺鼽齁齅齆"⟩,
  ⟨0x7E, 0x6B, "齓齕齘𪗱齝𪘂齩𪘚齭齰齵𪚲"⟩]

/-- The characters that a vendor added, by the bytes of its own charset. -/
def kanjiVendor : DoubleByte := [
  ⟨0x81, 0x60, "～∥"⟩,
  ⟨0x81, 0x7C, "－"⟩,
  ⟨0x81, 0x91, "￠￡"⟩,
  ⟨0x81, 0xCA, "￢"⟩,
  ⟨0x87, 0x40, "①②③④⑤⑥⑦⑧⑨⑩⑪⑫⑬⑭⑮⑯⑰⑱⑲⑳ⅠⅡⅢⅣⅤⅥⅦⅧⅨⅩ�㍉㌔㌢㍍㌘㌧㌃㌶㍑㍗㌍㌦㌣㌫㍊㌻㎜㎝㎞㎎㎏㏄㎡"⟩,
  ⟨0x87, 0x7E, "㍻�〝〟№㏍℡㊤㊥㊦㊧㊨㈱㈲㈹㍾㍽㍼≒≡∫∮∑√⊥∠∟⊿∵∩∪"⟩,
  ⟨0xED, 0x40, "纊褜鍈銈蓜俉炻昱棈鋹曻彅丨仡仼伀伃伹佖侒侊侚侔俍偀倢俿倞偆偰偂傔僴僘兊兤冝冾凬刕劜劦勀勛匀匇匤卲厓厲叝﨎咜咊咩哿喆坙坥垬埈埇﨏�塚增墲夋奓奛奝奣妤妺"⟩,
  ⟨0xED, 0x8A, "孖寀甯寘寬尞岦岺峵崧嵓﨑嵂嵭嶸嶹巐弡弴彧德忞恝悅悊惞惕愠惲愑愷愰憘戓抦揵摠撝擎敎昀昕昻昉昮昞昤晥晗晙晴晳暙暠暲暿曺朎朗杦枻桒柀栁桄棏﨓楨﨔榘槢樰橫橆"⟩,
  ⟨0xED, 0xD4, "橳橾櫢櫤毖氿汜沆汯泚洄涇浯涖涬淏淸淲淼渹湜渧渼溿澈澵濵瀅瀇瀨炅炫焏焄煜煆煇凞燁燾犱"⟩,
  ⟨0xEE, 0x40, "犾猤猪獷玽珉珖珣珒琇珵琦琪琩琮瑢璉璟甁畯皂皜皞皛皦益睆劯砡硎硤硺礰礼神祥禔福禛竑竧靖竫箞精絈絜綷綠緖繒罇羡羽茁荢荿菇菶葈蒴蕓蕙�蕫﨟薰蘒﨡蠇裵訒訷詹"⟩,
  ⟨0xEE, 0x8A, "誧誾諟諸諶譓譿賰賴贒赶﨣軏﨤逸遧郞都鄕鄧釚釗釞釭釮釤釥鈆鈐鈊鈺鉀鈼鉎鉙鉑鈹鉧銧鉷鉸鋧鋗鋙鋐﨧鋕鋠鋓錥錡鋻﨨錞鋿錝錂鍰鍗鎤鏆鏞鏸鐱鑅鑈閒隆﨩隝隯霳霻靃"⟩,
  ⟨0xEE, 0xD4, "靍靏靑靕顗顥飯飼餧館馞驎髙髜魵魲鮏鮱鮻鰀鵰鵫鶴鸙黑��ⅰⅱⅲⅳⅴⅵⅶⅷⅸⅹ￢￤＇＂"⟩,
  ⟨0xFA, 0x40, "ⅰⅱⅲⅳⅴⅵⅶⅷⅸⅹⅠⅡⅢⅣⅤⅥⅦⅧⅨⅩ￢￤＇＂㈱№℡∵纊褜鍈銈蓜俉炻昱棈鋹曻彅丨仡仼伀伃伹佖侒侊侚侔俍偀倢俿倞偆偰偂傔僴僘兊�兤冝冾凬刕劜劦勀勛匀"⟩,
  ⟨0xFA, 0x8A, "匇匤卲厓厲叝﨎咜咊咩哿喆坙坥垬埈埇﨏塚增墲夋奓奛奝奣妤妺孖寀甯寘寬尞岦岺峵崧嵓﨑嵂嵭嶸嶹巐弡弴彧德忞恝悅悊惞惕愠惲愑愷愰憘戓抦揵摠撝擎敎昀昕昻昉昮昞"⟩,
  ⟨0xFA, 0xD4, "昤晥晗晙晴晳暙暠暲暿曺朎朗杦枻桒柀栁桄棏﨓楨﨔榘槢樰橫橆橳橾櫢櫤毖氿汜沆汯泚洄涇浯"⟩,
  ⟨0xFB, 0x40, "涖涬淏淸淲淼渹湜渧渼溿澈澵濵瀅瀇瀨炅炫焏焄煜煆煇凞燁燾犱犾猤猪獷玽珉珖珣珒琇珵琦琪琩琮瑢璉璟甁畯皂皜皞皛皦益睆劯砡硎硤硺礰礼神�祥禔福禛竑竧靖竫箞精"⟩,
  ⟨0xFB, 0x8A, "絈絜綷綠緖繒罇羡羽茁荢荿菇菶葈蒴蕓蕙蕫﨟薰蘒﨡蠇裵訒訷詹誧誾諟諸諶譓譿賰賴贒赶﨣軏﨤逸遧郞都鄕鄧釚釗釞釭釮釤釥鈆鈐鈊鈺鉀鈼鉎鉙鉑鈹鉧銧鉷鉸鋧鋗鋙鋐﨧"⟩,
  ⟨0xFB, 0xD4, "鋕鋠鋓錥錡鋻﨨錞鋿錝錂鍰鍗鎤鏆鏞鏸鐱鑅鑈閒隆﨩隝隯霳霻靃靍靏靑靕顗顥飯飼餧館馞驎髙"⟩,
  ⟨0xFC, 0x40, "髜魵魲鮏鮱鮻鰀鵰鵫鶴鸙黑"⟩]

end ApiRouter.Text.Charset.DoubleByte
