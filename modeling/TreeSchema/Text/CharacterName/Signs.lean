import TreeSchema.Text.CharacterName.Basic

/-!
The names of hieroglyphs, of further syllables and components, of the signs of musical notations
and of writing with signs, and of mathematical letters.
-/

namespace TreeSchema.Text

/-- The names from U+13000 to U+1DFFF. -/
def signNames : List NameRun :=
  [
    ⟨0x13000, "EGYPTIAN HIEROGLYPH ", [
      "A001|A002|A003|A004|A005|A005A|A006|A006A|A006B|A007|A008|A009|A010|A011|A012|A013|A014",
      "A014A|A015|A016|A017|A017A|A018|A019|A020|A021|A022|A023|A024|A025|A026|A027|A028|A029",
      "A030|A031|A032|A032A|A033|A034|A035|A036|A037|A038|A039|A040|A040A|A041|A042|A042A|A043",
      "A043A|A044|A045|A045A|A046|A047|A048|A049|A050|A051|A052|A053|A054|A055|A056|A057|A058",
      "A059|A060|A061|A062|A063|A064|A065|A066|A067|A068|A069|A070|B001|B002|B003|B004|B005",
      "B005A|B006|B007|B008|B009|C001|C002|C002A|C002B|C002C|C003|C004|C005|C006|C007|C008|C009",
      "C010|C010A|C011|C012|C013|C014|C015|C016|C017|C018|C019|C020|C021|C022|C023|C024|D001",
      "D002|D003|D004|D005|D006|D007|D008|D008A|D009|D010|D011|D012|D013|D014|D015|D016|D017",
      "D018|D019|D020|D021|D022|D023|D024|D025|D026|D027|D027A|D028|D029|D030|D031|D031A|D032",
      "D033|D034|D034A|D035|D036|D037|D038|D039|D040|D041|D042|D043|D044|D045|D046|D046A|D047",
      "D048|D048A|D049|D050|D050A|D050B|D050C|D050D|D050E|D050F|D050G|D050H|D050I|D051|D052",
      "D052A|D053|D054|D054A|D055|D056|D057|D058|D059|D060|D061|D062|D063|D064|D065|D066|D067",
      "D067A|D067B|D067C|D067D|D067E|D067F|D067G|D067H|E001|E002|E003|E004|E005|E006|E007|E008",
      "E008A|E009|E009A|E010|E011|E012|E013|E014|E015|E016|E016A|E017|E017A|E018|E019|E020|E020A",
      "E021|E022|E023|E024|E025|E026|E027|E028|E028A|E029|E030|E031|E032|E033|E034|E034A|E036",
      "E037|E038|F001|F001A|F002|F003|F004|F005|F006|F007|F008|F009|F010|F011|F012|F013|F013A",
      "F014|F015|F016|F017|F018|F019|F020|F021|F021A|F022|F023|F024|F025|F026|F027|F028|F029",
      "F030|F031|F031A|F032|F033|F034|F035|F036|F037|F037A|F038|F038A|F039|F040|F041|F042|F043",
      "F044|F045|F045A|F046|F046A|F047|F047A|F048|F049|F050|F051|F051A|F051B|F051C|F052|F053",
      "G001|G002|G003|G004|G005|G006|G006A|G007|G007A|G007B|G008|G009|G010|G011|G011A|G012|G013",
      "G014|G015|G016|G017|G018|G019|G020|G020A|G021|G022|G023|G024|G025|G026|G026A|G027|G028",
      "G029|G030|G031|G032|G033|G034|G035|G036|G036A|G037|G037A|G038|G039|G040|G041|G042|G043",
      "G043A|G044|G045|G045A|G046|G047|G048|G049|G050|G051"]⟩,
    ⟨0x1317c, "EGYPTIAN HIEROGLYPH ", [
      "G052|G053|G054|H001|H002|H003|H004|H005|H006|H006A|H007|H008|I001|I002|I003|I004|I005",
      "I005A|I006|I007|I008|I009|I009A|I010|I010A|I011|I011A|I012|I013|I014|I015|K001|K002|K003",
      "K004|K005|K006|K007|K008|L001|L002|L002A|L003|L004|L005|L006|L006A|L007|L008|M001|M001A",
      "M001B|M002|M003|M003A|M004|M005|M006|M007|M008|M009|M010|M010A|M011|M012|M012A|M012B",
      "M012C|M012D|M012E|M012F|M012G|M012H|M013|M014|M015|M015A|M016|M016A|M017|M017A|M018|M019",
      "M020|M021|M022|M022A|M023|M024|M024A|M025|M026|M027|M028|M028A|M029|M030|M031|M031A|M032",
      "M033|M033A|M033B|M034|M035|M036|M037|M038|M039|M040|M040A|M041|M042|M043|M044|N001|N002",
      "N003|N004|N005|N006|N007|N008|N009|N010|N011|N012|N013|N014|N015|N016|N017|N018|N018A",
      "N018B|N019|N020|N021|N022|N023|N024|N025|N025A|N026|N027|N028|N029|N030|N031|N032|N033",
      "N033A|N034|N034A|N035|N035A|N036|N037|N037A|N038|N039|N040|N041|N042|NL001|NL002|NL003",
      "NL004|NL005|NL005A|NL006|NL007|NL008|NL009|NL010|NL011|NL012|NL013|NL014|NL015|NL016",
      "NL017|NL017A|NL018|NL019|NL020|NU001|NU002|NU003|NU004|NU005|NU006|NU007|NU008|NU009",
      "NU010|NU010A|NU011|NU011A|NU012|NU013|NU014|NU015|NU016|NU017|NU018|NU018A|NU019|NU020",
      "NU021|NU022|NU022A|O001|O001A|O002|O003|O004|O005|O005A|O006|O006A|O006B|O006C|O006D",
      "O006E|O006F|O007|O008|O009|O010|O010A|O010B|O010C|O011|O012|O013|O014|O015|O016|O017|O018",
      "O019|O019A|O020|O020A|O021|O022|O023|O024|O024A|O025|O025A|O026|O027|O028|O029|O029A|O030",
      "O030A|O031|O032|O033|O033A|O034|O035|O036|O036A|O036B|O036C|O036D|O037|O038|O039|O040",
      "O041|O042|O043|O044|O045|O046|O047|O048|O049|O050|O050A|O050B|O051|P001|P001A|P002|P003",
      "P003A|P004|P005|P006|P007|P008|P009|P010|P011|Q001|Q002|Q003|Q004|Q005|Q006|Q007|R001",
      "R002|R002A|R003|R003A|R003B|R004|R005|R006|R007|R008|R009|R010|R010A|R011|R012|R013|R014",
      "R015|R016|R016A|R017|R018|R019|R020|R021|R022|R023|R024|R025|R026|R027|R028|R029|S001",
      "S002|S002A|S003|S004|S005|S006|S006A|S007|S008|S009|S010|S011|S012|S013|S014|S014A|S014B",
      "S015|S016|S017|S017A|S018|S019|S020|S021|S022|S023|S024|S025|S026|S026A|S026B|S027|S028",
      "S029|S030|S031|S032|S033|S034|S035|S035A|S036|S037|S038|S039|S040|S041|S042|S043|S044",
      "S045|S046|T001|T002|T003|T003A|T004|T005|T006|T007|T007A|T008|T008A|T009|T009A|T010|T011",
      "T011A|T012|T013|T014|T015|T016|T016A|T017|T018|T019|T020|T021|T022|T023|T024|T025|T026",
      "T027|T028|T029|T030|T031|T032|T032A|T033|T033A|T034|T035|T036|U001|U002|U003|U004|U005",
      "U006|U006A|U006B|U007|U008|U009|U010|U011|U012|U013|U014|U015|U016|U017|U018|U019|U020",
      "U021|U022|U023|U023A|U024|U025|U026|U027|U028|U029|U029A|U030|U031|U032|U032A|U033|U034",
      "U035|U036|U037|U038|U039|U040|U041|U042|V001|V001A|V001B|V001C|V001D|V001E|V001F|V001G",
      "V001H|V001I|V002|V002A|V003|V004|V005|V006|V007|V007A|V007B|V008|V009|V010|V011|V011A",
      "V011B|V011C|V012|V012A|V012B|V013|V014|V015|V016|V017|V018|V019|V020|V020A|V020B|V020C",
      "V020D|V020E|V020F|V020G|V020H|V020I|V020J|V020K|V020L|V021|V022|V023|V023A|V024|V025|V026",
      "V027|V028|V028A|V029|V029A|V030|V030A|V031|V031A|V032|V033|V033A|V034|V035|V036|V037",
      "V037A|V038|V039|V040|V040A|W001|W002|W003|W003A|W004|W005|W006|W007|W008|W009|W009A|W010",
      "W010A|W011|W012|W013|W014|W014A|W015|W016|W017|W017A|W018|W018A|W019|W020|W021|W022|W023",
      "W024|W024A|W025|X001|X002|X003|X004|X004A|X004B|X005|X006|X006A|X007|X008|X008A|Y001",
      "Y001A|Y002|Y003|Y004|Y005|Y006|Y007|Y008|Z001|Z002|Z002A|Z002B|Z002C|Z002D|Z003|Z003A",
      "Z003B|Z004|Z004A|Z005|Z005A|Z006|Z007|Z008|Z009|Z010|Z011|Z012|Z013|Z014|Z015|Z015A|Z015B",
      "Z015C|Z015D|Z015E|Z015F|Z015G|Z015H|Z015I|Z016|Z016A|Z016B|Z016C|Z016D|Z016E|Z016F|Z016G",
      "Z016H|AA001|AA002|AA003|AA004|AA005|AA006|AA007|AA007A|AA007B|AA008|AA009|AA010|AA011",
      "AA012|AA013|AA014|AA015|AA016|AA017|AA018|AA019|AA020|AA021|AA022|AA023|AA024|AA025|AA026",
      "AA027|AA028|AA029|AA030|AA031|AA032||VERTICAL JOINER|HORIZONTAL JOINER",
      "INSERT AT TOP START|INSERT AT BOTTOM START|INSERT AT TOP END|INSERT AT BOTTOM END",
      "OVERLAY MIDDLE|BEGIN SEGMENT|END SEGMENT"]⟩,
    ⟨0x14400, "ANATOLIAN HIEROGLYPH ", [
      "A001|A002|A003|A004|A005|A006|A007|A008|A009|A010|A010A|A011|A012|A013|A014|A015|A016",
      "A017|A018|A019|A020|A021|A022|A023|A024|A025|A026|A026A|A027|A028|A029|A030|A031|A032",
      "A033|A034|A035|A036|A037|A038|A039|A039A|A040|A041|A041A|A042|A043|A044|A045|A045A|A046",
      "A046A|A046B|A047|A048|A049|A050|A051|A052|A053|A054|A055|A056|A057|A058|A059|A060|A061",
      "A062|A063|A064|A065|A066|A066A|A066B|A066C|A067|A068|A069|A070|A071|A072|A073|A074|A075",
      "A076|A077|A078|A079|A080|A081|A082|A083|A084|A085|A086|A087|A088|A089|A090|A091|A092|A093",
      "A094|A095|A096|A097|A097A|A098|A098A|A099|A100|A100A|A101|A101A|A102|A102A|A103|A104",
      "A104A|A104B|A104C|A105|A105A|A105B|A106|A107|A107A|A107B|A107C|A108|A109|A110|A110A|A110B",
      "A111|A112|A113|A114|A115|A115A|A116|A117|A118|A119|A120|A121|A122|A123|A124|A125|A125A",
      "A126|A127|A128|A129|A130|A131|A132|A133|A134|A135|A135A|A136|A137|A138|A139|A140|A141",
      "A142|A143|A144|A145|A146|A147|A148|A149|A150|A151|A152|A153|A154|A155|A156|A157|A158|A159",
      "A160|A161|A162|A163|A164|A165|A166|A167|A168|A169|A170|A171|A172|A173|A174|A175|A176|A177",
      "A178|A179|A180|A181|A182|A183|A184|A185|A186|A187|A188|A189|A190|A191|A192|A193|A194|A195",
      "A196|A197|A198|A199|A200|A201|A202|A202A|A202B|A203|A204|A205|A206|A207|A207A|A208|A209",
      "A209A|A210|A211|A212|A213|A214|A215|A215A|A216|A216A|A217|A218|A219|A220|A221|A222|A223",
      "A224|A225|A226|A227|A227A|A228|A229|A230|A231|A232|A233|A234|A235|A236|A237|A238|A239",
      "A240|A241|A242|A243|A244|A245|A246|A247|A248|A249|A250|A251|A252|A253|A254|A255|A256|A257",
      "A258|A259|A260|A261|A262|A263|A264|A265|A266|A267|A267A|A268|A269|A270|A271|A272|A273",
      "A274|A275|A276|A277|A278|A279|A280|A281|A282|A283|A284|A285|A286|A287|A288|A289|A289A",
      "A290|A291|A292|A293|A294|A294A|A295|A296|A297|A298|A299|A299A|A300|A301|A302|A303|A304",
      "A305|A306|A307|A308|A309|A309A|A310|A311|A312|A313|A314|A315|A316|A317|A318|A319|A320",
      "A321|A322|A323|A324|A325|A326|A327|A328|A329|A329A|A330|A331|A332A|A332B|A332C|A333|A334",
      "A335|A336|A336A|A336B|A336C|A337|A338|A339|A340|A341|A342|A343|A344|A345|A346|A347|A348",
      "A349|A350|A351|A352|A353|A354|A355|A356|A357|A358|A359|A359A|A360|A361|A362|A363|A364",
      "A364A|A365|A366|A367|A368|A368A|A369|A370|A371|A371A|A372|A373|A374|A375|A376|A377|A378",
      "A379|A380|A381|A381A|A382|A383 RA OR RI|A383A|A384|A385|A386|A386A|A387|A388|A389|A390",
      "A391|A392|A393 EIGHT|A394|A395|A396|A397|A398|A399|A400|A401|A402|A403|A404|A405|A406",
      "A407|A408|A409|A410 BEGIN LOGOGRAM MARK|A410A END LOGOGRAM MARK|A411|A412|A413|A414|A415",
      "A416|A417|A418|A419|A420|A421|A422|A423|A424|A425|A426|A427|A428|A429|A430|A431|A432|A433",
      "A434|A435|A436|A437|A438|A439|A440|A441|A442|A443|A444|A445|A446|A447|A448|A449|A450",
      "A450A|A451|A452|A453|A454|A455|A456|A457|A457A|A458|A459|A460|A461|A462|A463|A464|A465",
      "A466|A467|A468|A469|A470|A471|A472|A473|A474|A475|A476|A477|A478|A479|A480|A481|A482|A483",
      "A484|A485|A486|A487|A488|A489|A490|A491|A492|A493|A494|A495|A496|A497|A501|A502|A503|A504",
      "A505|A506|A507|A508|A509|A510|A511|A512|A513|A514|A515|A516|A517|A518|A519|A520|A521|A522",
      "A523|A524|A525|A526|A527|A528|A529|A530"]⟩,
    ⟨0x16800, "BAMUM LETTER PHASE-A ", [
      "NGKUE MFON|GBIEE FON|PON MFON PIPAEMGBIEE|PON MFON PIPAEMBA|NAA MFON|SHUENSHUET|TITA MFON",
      "NZA MFON|SHINDA PA NJI|PON PA NJI PIPAEMGBIEE|PON PA NJI PIPAEMBA|MAEMBGBIEE|TU MAEMBA",
      "NGANGU|MAEMVEUX|MANSUAE|MVEUAENGAM|SEUNYAM|NTOQPEN|KEUKEUTNDA|NKINDI|SUU|NGKUENZEUM|LAPAQ",
      "LET KUT|NTAP MFAA|MAEKEUP|PASHAE|GHEUAERAE|PAMSHAE|MON NGGEUAET|NZUN MEUT|U YUQ NAE",
      "GHEUAEGHEUAE|NTAP NTAA|SISA|MGBASA|MEUNJOMNDEUQ|MOOMPUQ|KAFA|PA LEERAEWA|NDA LEERAEWA|PET",
      "MAEMKPEN|NIKA|PUP|TUAEP|LUAEP|SONJAM|TEUTEUWEN|MAENYI|KET|NDAANGGEUAET|KUOQ|MOOMEUT|SHUM",
      "LOMMAE|FIRI|ROM|KPOQ|SOQ|MAP PIEET|SHIRAE|NTAP|SHOQ NSHUT YUM|NYIT MONGKEUAEQ|PAARAE",
      "NKAARAE|UNKNOWN|NGGEN|MAESI|NJAM|MBANYI|NYET|TEUAEN|SOT|PAAM|NSHIEE|MAEM|NYI|KAQ|NSHA|VEE",
      "LU|NEN|NAQ|MBAQ"]⟩,
    ⟨0x16857, "BAMUM LETTER PHASE-B ", [
      "NSHUET|TU MAEMGBIEE|SIEE|SET TU|LOM NTEUM|MBA MAELEE|KIEEM|YEURAE|MBAARAE|KAM|PEESHI",
      "YAFU LEERAEWA|LAM NSHUT NYAM|NTIEE SHEUOQ|NDU NJAA|GHEUGHEUAEM|PIT|TU NSIEE|SHET NJAQ",
      "SHEUAEQTU|MFON TEUAEQ|MBIT MBAAKET|NYI NTEUM|KEUPUQ|GHEUGHEN|KEUYEUX|LAANAE|PARUM|VEUM",
      "NGKINDI MVOP|NGGEU MBU|WUAET|SAKEUAE|TAAM|MEUQ|NGGUOQ|NGGUOQ LARGE|MFIYAQ|SUE|MBEURI",
      "MONTIEEN|NYAEMAE|PUNGAAM|MEUT NGGEET|FEUX|MBUOQ|FEE|KEUAEM|MA NJEUAENA|MA NJUQA|LET",
      "NGGAAM|NSEN|MA|KIQ|NGOM"]⟩,
    ⟨0x1688f, "BAMUM LETTER PHASE-C ", [
      "NGKUE MAEMBA|NZA|YUM|WANGKUOQ|NGGEN|NDEUAEREE|NGKAQ|GHARAE|MBEEKEET|GBAYI",
      "NYIR MKPARAQ MEUN|NTU MBIT|MBEUM|PIRIEEN|NDOMBU|MBAA CABBAGE-TREE|KEUSHEUAEP|GHAP|KEUKAQ",
      "YU MUOMAE|NZEUM|MBUE|NSEUAEN|MBIT|YEUQ|KPARAQ|KAA|SEUX|NDIDA|TAASHAE|NJUEQ|TITA YUE|SUAET",
      "NGGUAEN NYAM|VEUX|NANSANAQ|MA KEUAERI|NTAA|NGGUON|LAP|MBIRIEEN|MGBASAQ|NTEUNGBA|TEUTEUX",
      "NGGUM|FUE|NDEUT|NSA|NSHAQ|BUNG|VEUAEPEN|MBERAE|RU|NJAEM|LAM|TITUAEP|NSUOT NGOM|NJEEEE|KET",
      "NGGU|MAESI|MBUAEM|LU|KUT|NJAM|NGOM|WUP|NGGUEET|NSOM|NTEN|KUOP NKAARAE|NSUN|NDAM|MA NSIEE",
      "YAA|NDAP|SHUEQ|SETFON|MBI|MAEMBA|MBANYI|KEUSEUX|MBEUX|KEUM|MBAA PICKET|YUWOQ|NJEUX|MIEE",
      "MUAE|SHIQ|KEN LAW|KEN FATIGUE|NGAQ|NAQ|LIQ|PIN|PEN|TET"]⟩,
    ⟨0x168f1, "BAMUM LETTER PHASE-D ", [
      "MBUO|WAP|NJI|MFON|NJIEE|LIEE|NJEUT|NSHEE|NGGAAMAE|NYAM|WUAEN|NGKUN|SHEE|NGKAP|KEUAETMEUN",
      "TEUT|SHEUAE|NJAP|SUE|KET|YAEMMAE|KUOM|SAP|MFEUT|NDEUX|MALEERI|MEUT|SEUAEQ|YEN|NJEUAEM",
      "KEUOT MBUAE|NGKEURI|TU|GHAA|NGKYEE|FEUFEUAET|NDEE|MGBOFUM|LEUAEP|NDON|MONI|MGBEUN|PUUT",
      "MGBIEE|MFO|LUM|NSIEEP|MBAA|KWAET|NYET|TEUAEN|SOT|YUWOQ|KEUM|RAEM|TEEEE|NGKEUAEQ|MFEUAE",
      "NSIEET|KEUP|PIP|PEUTAE|NYUE|LET|NGGAAM|MFIEE|NGGWAEN|YUOM|PAP|YUOP|NDAM|NTEUM|SUAE|KUN",
      "NGGEUX|NGKIEE|TUOT|MEUN|KUQ|NSUM|TEUN|MAENJET|NGGAP|LEUM|NGGUOM|NSHUT|NJUEQ|GHEUAE|KU",
      "REN OLD|TAE|TOQ|NYI|RII|LEEEE|MEEEE|M|SUU|MU|SHII|SHEUX|KYEE|NU|SHU|NTEE|PEE|NI|SHOQ|PUQ",
      "MVOP|LOQ|REN MUCH|TI|NTUU|MBAA SEVEN|SAQ|FAA"]⟩,
    ⟨0x16966, "BAMUM LETTER PHASE-E ", [
      "NDAP|TOON|MBEUM|LAP|VOM|LOON|PAA|SOM|RAQ|NSHUOP|NDUN|PUAE|TAM|NGKA|KPEUX|WUO|SEE|NGGEUAET",
      "PAAM|TOO|KUOP|LOM|NSHIEE|NGOP|MAEM|NGKEUX|NGOQ|NSHUE|RIMGBA|NJEUX|PEEM|SAA|NGGURAE|MGBA",
      "GHEUX|NGKEUAEM|NJAEMLI|MAP|LOOT|NGGEEEE|NDIQ|TAEN NTEUM|SET|PUM|NDAA SOFTNESS",
      "NGGUAESHAE NYAM|YIEE|GHEUN|TUAE|YEUAE|PO|TUMAE|KEUAE|SUAEN|TEUAEQ|VEUAE|WEUX|LAAM|PU|TAAQ",
      "GHAAMAE|NGEUREUT|SHEUAEQ|MGBEN|MBEE|NZAQ|NKOM|GBET|TUM|KUET|YAP|NYI CLEAVER|YIT|MFEUQ",
      "NDIAQ|PIEEQ|YUEQ|LEUAEM|FUE|GBEUX|NGKUP|KET|MAE|NGKAAMI|GHET|FA|NTUM|PEUT|YEUM|NGGEUAE",
      "NYI BETWEEN|NZUQ|POON|MIEE|FUET|NAE|MUAE|GHEUAE|FU I|MVI|PUAQ|NGKUM|KUT|PIET|NTAP|YEUAET",
      "NGGUP|PA PEOPLE|FU CALL|FOM|NJEE|A|TOQ|O|I|LAQ|PA PLURAL|TAA|TAQ|NDAA MY HOUSE|SHIQ|YEUX",
      "NGUAE|YUAEN|YOQ SWIMMING|YOQ COVER|YUQ|YUN|KEUX|PEUX|NJEE EPOCH|PUE|WUE|FEE|VEE|LU|MI",
      "REUX|RAE|NGUAET|NGA|SHO|SHOQ|FU REMEDY|NA|PI|LOQ|KO|MEN|MA|MAQ|TEU|KI|MON|TEN|FAQ|GHOM"]⟩,
    ⟨0x16a03, "BAMUM LETTER PHASE-F ", [
      "KA|U|KU|EE|REE|TAE|NYI|LA|RII|RIEE|MEEEE|TAA|NDAA|NJAEM|M|SUU|SHII|SI|SEUX|KYEE|KET|NUAE",
      "NU|NJUAE|YOQ|SHU|YA|NSHA|PEUX|NTEE|WUE|PEE|RU|NI|REUX|KEN|NGKWAEN|NGGA|SHO|PUAE|FOM|WA|LI",
      "LOQ|KO|MBEN|REN|MA|MO|MBAA|TET|KPA|SAMBA|VUEQ"]⟩,
    ⟨0x16a40, "MRO LETTER ", [
      "TA|NGI|YO|MIM|BA|DA|A|PHI|KHAI|HAO|DAI|CHU|KEAAE|OL|MAEM|NIN|PA|OO|O|RO|SHI|THEA|EA|WA|E",
      "KO|LAN|LA|HAI|RI|TEK"]⟩,
    ⟨0x16a60, "MRO DIGIT ", ["ZERO|ONE|TWO|THREE|FOUR|FIVE|SIX|SEVEN|EIGHT|NINE"]⟩,
    ⟨0x16a6e, "MRO ", ["DANDA|DOUBLE DANDA"]⟩,
    ⟨0x16a70, "TANGSA LETTER ", [
      "OZ|OC|OQ|OX|AZ|AC|AQ|AX|VZ|VC|VQ|VX|EZ|EC|EQ|EX|IZ|IC|IQ|IX|UZ|UC|UQ|UX|AWZ|AWC|AWQ|AWX",
      "UIZ|UIC|UIQ|UIX|FINAL NG|LONG UEX|SHORT UEZ|SHORT AWX|UEC|UEZ|UEQ|UEX|UIUZ|UIUC|UIUQ|UIUX",
      "MZ|MC|MQ|MX|KA|KHA|GA|NGA|SA|YA|WA|PA|NYA|PHA|BA|MA|NA|HA|LA|HTA|TA|DA|RA|NHA|SHA|CA|TSA",
      "GHA|HTTA|THA|XA|FA|DHA|CHA|ZA"]⟩,
    ⟨0x16ac0, "TANGSA DIGIT ", ["ZERO|ONE|TWO|THREE|FOUR|FIVE|SIX|SEVEN|EIGHT|NINE"]⟩,
    ⟨0x16ad0, "BASSA VAH LETTER ", [
      "ENNI|KA|SE|FA|MBE|YIE|GAH|DHII|KPAH|JO|HWAH|WA|ZO|GBU|DO|CE|UWU|TO|BA|VU|YEIN|PA|WADDA|A",
      "O|OO|U|EE|E|I"]⟩,
    ⟨0x16af0, "BASSA VAH ", [
      "COMBINING HIGH TONE|COMBINING LOW TONE|COMBINING MID TONE|COMBINING LOW-MID TONE",
      "COMBINING HIGH-LOW TONE|FULL STOP"]⟩,
    ⟨0x16b00, "PAHAWH HMONG VOWEL ", [
      "KEEB|KEEV|KIB|KIV|KAUB|KAUV|KUB|KUV|KEB|KEV|KAIB|KAIV|KOOB|KOOV|KAWB|KAWV|KUAB|KUAV|KOB",
      "KOV|KIAB|KIAV|KAB|KAV|KWB|KWV|KAAB|KAAV"]⟩,
    ⟨0x16b1c, "PAHAWH HMONG CONSONANT ", [
      "VAU|NTSAU|LAU|HAU|NLAU|RAU|NKAU|QHAU|YAU|HLAU|MAU|CHAU|NCHAU|HNAU|PLHAU|NTHAU|NAU|AU|XAU",
      "CAU"]⟩,
    ⟨0x16b30, "PAHAWH HMONG MARK CIM ", ["TUB|SO|KES|KHAV|SUAM|HOM|TAUM"]⟩,
    ⟨0x16b37, "PAHAWH HMONG SIGN ", [
      "VOS THOM|VOS TSHAB CEEB|CIM CHEEM|VOS THIAB|VOS FEEM|XYEEM NTXIV|XYEEM RHO|XYEEM TOV",
      "XYEEM FAIB|VOS SEEV|MEEJ SUAB|VOS NRUA|IB YAM|XAUS|CIM TSOV ROG"]⟩,
    ⟨0x16b50, "PAHAWH HMONG DIGIT ", ["ZERO|ONE|TWO|THREE|FOUR|FIVE|SIX|SEVEN|EIGHT|NINE"]⟩,
    ⟨0x16b5b, "PAHAWH HMONG NUMBER ", [
      "TENS|HUNDREDS|TEN THOUSANDS|MILLIONS|HUNDRED MILLIONS|TEN BILLIONS|TRILLIONS"]⟩,
    ⟨0x16b63, "PAHAWH HMONG SIGN ", [
      "VOS LUB|XYOO|HLI|THIRD-STAGE HLI|ZWJ THAJ|HNUB|NQIG|XIAB|NTUJ|AV|TXHEEJ CEEV|MEEJ TSEEB",
      "TAU|LOS|MUS|CIM HAIS LUS NTOG NTOG|CIM CUAM TSHOOJ|CIM TXWV|CIM TXWV CHWV|CIM PUB DAWB",
      "CIM NRES TOS"]⟩,
    ⟨0x16b7d, "PAHAWH HMONG CLAN SIGN ", [
      "TSHEEJ|YEEG|LIS|LAUJ|XYOOJ|KOO|HAWJ|MUAS|THOJ|TSAB|PHAB|KHAB|HAM|VAJ|FAJ|YAJ|TSWB|KWM|VWJ"]⟩,
    ⟨0x16e40, "MEDEFAIDRIN CAPITAL LETTER ", [
      "M|S|V|W|ATIU|Z|KP|P|T|G|F|I|K|A|J|E|B|C|U|YU|L|Q|HP|NY|X|D|OE|N|R|O|AI|Y"]⟩,
    ⟨0x16e60, "MEDEFAIDRIN SMALL LETTER ", [
      "M|S|V|W|ATIU|Z|KP|P|T|G|F|I|K|A|J|E|B|C|U|YU|L|Q|HP|NY|X|D|OE|N|R|O|AI|Y"]⟩,
    ⟨0x16e80, "MEDEFAIDRIN ", [
      "DIGIT ZERO|DIGIT ONE|DIGIT TWO|DIGIT THREE|DIGIT FOUR|DIGIT FIVE|DIGIT SIX|DIGIT SEVEN",
      "DIGIT EIGHT|DIGIT NINE|NUMBER TEN|NUMBER ELEVEN|NUMBER TWELVE|NUMBER THIRTEEN",
      "NUMBER FOURTEEN|NUMBER FIFTEEN|NUMBER SIXTEEN|NUMBER SEVENTEEN|NUMBER EIGHTEEN",
      "NUMBER NINETEEN|DIGIT ONE ALTERNATE FORM|DIGIT TWO ALTERNATE FORM",
      "DIGIT THREE ALTERNATE FORM|COMMA|FULL STOP|SYMBOL AIVA|EXCLAMATION OH"]⟩,
    ⟨0x16f00, "MIAO LETTER ", [
      "PA|BA|YI PA|PLA|MA|MHA|ARCHAIC MA|FA|VA|VFA|TA|DA|YI TTA|YI TA|TTA|DDA|NA|NHA|YI NNA",
      "ARCHAIC NA|NNA|NNHA|LA|LYA|LHA|LHYA|TLHA|DLHA|TLHYA|DLHYA|KA|GA|YI KA|QA|QGA|NGA|NGHA",
      "ARCHAIC NGA|HA|XA|GHA|GHHA|TSSA|DZZA|NYA|NYHA|TSHA|DZHA|YI TSHA|YI DZHA|REFORMED TSHA|SHA",
      "SSA|ZHA|ZSHA|TSA|DZA|YI TSA|SA|ZA|ZSA|ZZA|ZZSA|ARCHAIC ZZA|ZZYA|ZZSYA|WA|AH|HHA|BRI|SYI",
      "DZYI|TE|TSE|RTE"]⟩,
    ⟨0x16f4f, "MIAO ", [
      "SIGN CONSONANT MODIFIER BAR|LETTER NASALIZATION|SIGN ASPIRATION|SIGN REFORMED VOICING",
      "SIGN REFORMED ASPIRATION"]⟩,
    ⟨0x16f54, "MIAO VOWEL SIGN ", [
      "A|AA|AHH|AN|ANG|O|OO|WO|W|E|EN|ENG|OEY|I|IA|IAN|IANG|IO|IE|II|IU|ING|U|UA|UAN|UANG|UU|UEI",
      "UNG|Y|YI|AE|AEE|ERR|ROUNDED ERR|ER|ROUNDED ER|AI|EI|AU|OU|N|NG|UOG|YUI|OG|OER|VW|IG|EA",
      "IONG|UI"]⟩,
    ⟨0x16f8f, "MIAO TONE ", ["RIGHT|TOP RIGHT|ABOVE|BELOW"]⟩,
    ⟨0x16f93, "MIAO LETTER TONE-", ["2|3|4|5|6|7|8"]⟩,
    ⟨0x16f9a, "MIAO LETTER REFORMED TONE-", ["1|2|4|5|6|8"]⟩,
    ⟨0x16fe0, "", [
      "TANGUT ITERATION MARK|NUSHU ITERATION MARK|OLD CHINESE HOOK MARK",
      "OLD CHINESE ITERATION MARK|KHITAN SMALL SCRIPT FILLER"]⟩,
    ⟨0x16ff0, "VIETNAMESE ALTERNATE READING MARK ", ["CA|NHAY"]⟩,
    ⟨0x18800, "TANGUT COMPONENT-", [
      "001|002|003|004|005|006|007|008|009|010|011|012|013|014|015|016|017|018|019|020|021|022",
      "023|024|025|026|027|028|029|030|031|032|033|034|035|036|037|038|039|040|041|042|043|044",
      "045|046|047|048|049|050|051|052|053|054|055|056|057|058|059|060|061|062|063|064|065|066",
      "067|068"]⟩,
    ⟨0x18844, "TANGUT COMPONENT-", [
      "069|070|071|072|073|074|075|076|077|078|079|080|081|082|083|084|085|086|087|088|089|090",
      "091|092|093|094|095|096|097|098|099|100|101|102|103|104|105|106|107|108|109|110|111|112",
      "113|114|115|116|117|118|119|120|121|122|123|124|125|126|127|128|129|130|131|132|133|134",
      "135|136|137|138|139|140|141|142|143|144|145|146|147|148|149|150|151|152|153|154|155|156",
      "157|158|159|160|161|162|163|164|165|166|167|168|169|170|171|172|173|174|175|176|177|178",
      "179|180|181|182|183|184|185|186|187|188|189|190|191|192|193|194|195|196|197|198|199|200",
      "201|202|203|204|205|206|207|208|209|210|211|212|213|214|215|216|217|218|219|220|221|222",
      "223|224|225|226|227|228|229|230|231|232|233|234|235|236|237|238|239|240|241|242|243|244",
      "245|246|247|248|249|250|251|252|253|254|255|256|257|258|259|260|261|262|263|264|265|266",
      "267|268|269|270|271|272|273|274|275|276|277|278|279|280|281|282|283|284|285|286|287|288",
      "289|290|291|292|293|294|295|296|297|298|299|300|301|302|303|304|305|306|307|308|309|310",
      "311|312|313|314|315|316|317|318|319|320|321|322|323|324|325|326|327|328|329|330|331|332",
      "333|334|335|336|337|338|339|340|341|342|343|344|345|346|347|348|349|350|351|352|353|354",
      "355|356|357|358|359|360|361|362|363|364|365|366|367|368|369|370|371|372|373|374|375|376",
      "377|378|379|380|381|382|383|384|385|386|387|388|389|390|391|392|393|394|395|396|397|398",
      "399|400|401|402|403|404|405|406|407|408|409|410|411|412|413|414|415|416|417|418|419|420",
      "421|422|423|424|425|426|427|428|429|430|431|432|433|434|435|436|437|438|439|440|441|442",
      "443|444|445|446|447|448|449|450|451|452|453|454|455|456|457|458|459|460|461|462|463|464",
      "465|466|467|468|469|470|471|472|473|474|475|476|477|478|479|480|481|482|483|484|485|486",
      "487|488|489|490|491|492|493|494|495|496|497|498|499|500|501|502|503|504|505|506|507|508",
      "509|510|511|512|513|514|515|516|517|518|519|520|521|522|523|524|525|526|527|528|529|530",
      "531|532|533|534|535|536|537|538|539|540|541|542|543|544|545|546|547|548|549|550|551|552",
      "553|554|555|556|557|558|559|560|561|562|563|564|565|566|567|568|569|570|571|572|573|574",
      "575|576|577|578|579|580|581|582|583|584|585|586|587|588|589|590|591|592|593|594|595|596",
      "597|598|599|600|601|602|603|604|605|606|607|608|609|610|611|612|613|614|615|616|617|618",
      "619|620|621|622|623|624|625|626|627|628|629|630|631|632|633|634|635|636|637|638|639|640",
      "641|642|643|644|645|646|647|648|649|650|651|652|653|654|655|656|657|658|659|660|661|662",
      "663|664|665|666|667|668|669|670|671|672|673|674|675|676|677|678|679|680|681|682|683|684",
      "685|686|687|688|689|690|691|692|693|694|695|696|697|698|699|700|701|702|703|704|705|706",
      "707|708|709|710|711|712|713|714|715|716|717|718|719|720|721|722|723|724|725|726|727|728",
      "729|730|731|732|733|734|735|736|737|738|739|740|741|742|743|744|745|746|747|748|749|750",
      "751|752|753|754|755|756|757|758|759|760|761|762|763|764|765|766|767|768"]⟩,
    ⟨0x1aff0, "KATAKANA LETTER MINNAN TONE-", ["2|3|4|5||7|8"]⟩,
    ⟨0x1aff7, "KATAKANA LETTER MINNAN NASALIZED TONE-", ["1|2|3|4|5||7|8"]⟩,
    ⟨0x1b000, "", ["KATAKANA LETTER ARCHAIC E|HIRAGANA LETTER ARCHAIC YE"]⟩,
    ⟨0x1b002, "HENTAIGANA LETTER ", [
      "A-1|A-2|A-3|A-WO|I-1|I-2|I-3|I-4|U-1|U-2|U-3|U-4|U-5|E-2|E-3|E-4|E-5|E-6|O-1|O-2|O-3|KA-1",
      "KA-2|KA-3|KA-4|KA-5|KA-6|KA-7|KA-8|KA-9|KA-10|KA-11|KA-KE|KI-1|KI-2|KI-3|KI-4|KI-5|KI-6",
      "KI-7|KI-8|KU-1|KU-2|KU-3|KU-4|KU-5|KU-6|KU-7|KE-1|KE-2|KE-3|KE-4|KE-5|KE-6|KO-1|KO-2|KO-3",
      "KO-KI|SA-1|SA-2|SA-3|SA-4|SA-5|SA-6|SA-7|SA-8|SI-1|SI-2|SI-3|SI-4|SI-5|SI-6|SU-1|SU-2",
      "SU-3|SU-4|SU-5|SU-6|SU-7|SU-8|SE-1|SE-2|SE-3|SE-4|SE-5|SO-1|SO-2|SO-3|SO-4|SO-5|SO-6|SO-7",
      "TA-1|TA-2|TA-3|TA-4|TI-1|TI-2|TI-3|TI-4|TI-5|TI-6|TI-7|TU-1|TU-2|TU-3|TU-4|TU-TO|TE-1",
      "TE-2|TE-3|TE-4|TE-5|TE-6|TE-7|TE-8|TE-9|TO-1|TO-2|TO-3|TO-4|TO-5|TO-6|TO-RA|NA-1|NA-2",
      "NA-3|NA-4|NA-5|NA-6|NA-7|NA-8|NA-9|NI-1|NI-2|NI-3|NI-4|NI-5|NI-6|NI-7|NI-TE|NU-1|NU-2",
      "NU-3|NE-1|NE-2|NE-3|NE-4|NE-5|NE-6|NE-KO|NO-1|NO-2|NO-3|NO-4|NO-5|HA-1|HA-2|HA-3|HA-4",
      "HA-5|HA-6|HA-7|HA-8|HA-9|HA-10|HA-11|HI-1|HI-2|HI-3|HI-4|HI-5|HI-6|HI-7|HU-1|HU-2|HU-3",
      "HE-1|HE-2|HE-3|HE-4|HE-5|HE-6|HE-7|HO-1|HO-2|HO-3|HO-4|HO-5|HO-6|HO-7|HO-8|MA-1|MA-2|MA-3",
      "MA-4|MA-5|MA-6|MA-7|MI-1|MI-2|MI-3|MI-4|MI-5|MI-6|MI-7|MU-1|MU-2|MU-3|MU-4|ME-1|ME-2",
      "ME-MA|MO-1|MO-2|MO-3|MO-4|MO-5|MO-6|YA-1|YA-2|YA-3|YA-4|YA-5|YA-YO|YU-1|YU-2|YU-3|YU-4",
      "YO-1|YO-2|YO-3|YO-4|YO-5|YO-6|RA-1|RA-2|RA-3|RA-4|RI-1|RI-2|RI-3|RI-4|RI-5|RI-6|RI-7|RU-1",
      "RU-2|RU-3|RU-4|RU-5|RU-6|RE-1|RE-2|RE-3|RE-4|RO-1|RO-2|RO-3|RO-4|RO-5|RO-6|WA-1|WA-2|WA-3",
      "WA-4|WA-5|WI-1|WI-2|WI-3|WI-4|WI-5|WE-1|WE-2|WE-3|WE-4|WO-1|WO-2|WO-3|WO-4|WO-5|WO-6|WO-7",
      "N-MU-MO-1|N-MU-MO-2"]⟩,
    ⟨0x1b11f, "", [
      "HIRAGANA LETTER ARCHAIC WU|KATAKANA LETTER ARCHAIC YI|KATAKANA LETTER ARCHAIC YE",
      "KATAKANA LETTER ARCHAIC WU"]⟩,
    ⟨0x1b150, "HIRAGANA LETTER SMALL ", ["WI|WE|WO"]⟩,
    ⟨0x1b164, "KATAKANA LETTER SMALL ", ["WI|WE|WO|N"]⟩,
    ⟨0x1bc00, "DUPLOYAN LETTER ", [
      "H|X|P|T|F|K|L|B|D|V|G|R|P N|D S|F N|K M|R S|TH|SLOAN DH|DH|KK|SLOAN J|HL|LH|RH|M|N|J|S",
      "M N|N M|J M|S J|M WITH DOT|N WITH DOT|J WITH DOT|J WITH DOTS INSIDE AND ABOVE|S WITH DOT",
      "S WITH DOT BELOW|M S|N S|J S|S S|M N S|N M S|J M S|S J S|J S WITH DOT|J N|J N S|S T|S T R",
      "S P|S P R|T S|T R S|W|WH|W R|S N|S M|K R S|G R S|S K|S K R|A|SLOAN OW|OA|O|AOU|I|E|IE",
      "SHORT I|UI|EE|SLOAN EH|ROMANIAN I|SLOAN EE|LONG I|YE|U|EU|XW|U N|LONG U|ROMANIAN U|UH",
      "SLOAN U|OOH|OW|OU|WA|WO|WI|WEI|WOW|NASAL U|NASAL O|NASAL I|NASAL A|PERNIN AN|PERNIN AM",
      "SLOAN EN|SLOAN AN|SLOAN ON|VOCALIC M"]⟩,
    ⟨0x1bc70, "DUPLOYAN AFFIX ", [
      "LEFT HORIZONTAL SECANT|MID HORIZONTAL SECANT|RIGHT HORIZONTAL SECANT|LOW VERTICAL SECANT",
      "MID VERTICAL SECANT|HIGH VERTICAL SECANT|ATTACHED SECANT|ATTACHED LEFT-TO-RIGHT SECANT",
      "ATTACHED TANGENT|ATTACHED TAIL|ATTACHED E HOOK|ATTACHED I HOOK|ATTACHED TANGENT HOOK|||",
      "HIGH ACUTE|HIGH TIGHT ACUTE|HIGH GRAVE|HIGH LONG GRAVE|HIGH DOT|HIGH CIRCLE|HIGH LINE",
      "HIGH WAVE|HIGH VERTICAL"]⟩,
    ⟨0x1bc90, "DUPLOYAN AFFIX LOW ", [
      "ACUTE|TIGHT ACUTE|GRAVE|LONG GRAVE|DOT|CIRCLE|LINE|WAVE|VERTICAL|ARROW"]⟩,
    ⟨0x1bc9c, "DUPLOYAN ", [
      "SIGN O WITH CROSS|THICK LETTER SELECTOR|DOUBLE MARK|PUNCTUATION CHINOOK FULL STOP"]⟩,
    ⟨0x1bca0, "SHORTHAND FORMAT ", ["LETTER OVERLAP|CONTINUING OVERLAP|DOWN STEP|UP STEP"]⟩,
    ⟨0x1cf00, "ZNAMENNY COMBINING MARK ", [
      "GORAZDO NIZKO S KRYZHEM ON LEFT|NIZKO S KRYZHEM ON LEFT|TSATA ON LEFT",
      "GORAZDO NIZKO ON LEFT|NIZKO ON LEFT|SREDNE ON LEFT|MALO POVYSHE ON LEFT|POVYSHE ON LEFT",
      "VYSOKO ON LEFT|MALO POVYSHE S KHOKHLOM ON LEFT|POVYSHE S KHOKHLOM ON LEFT",
      "VYSOKO S KHOKHLOM ON LEFT|GORAZDO NIZKO S KRYZHEM ON RIGHT|NIZKO S KRYZHEM ON RIGHT",
      "TSATA ON RIGHT|GORAZDO NIZKO ON RIGHT|NIZKO ON RIGHT|SREDNE ON RIGHT",
      "MALO POVYSHE ON RIGHT|POVYSHE ON RIGHT|VYSOKO ON RIGHT|MALO POVYSHE S KHOKHLOM ON RIGHT",
      "POVYSHE S KHOKHLOM ON RIGHT|VYSOKO S KHOKHLOM ON RIGHT|TSATA S KRYZHEM",
      "MALO POVYSHE S KRYZHEM|STRANNO MALO POVYSHE|POVYSHE S KRYZHEM|POVYSHE STRANNO",
      "VYSOKO S KRYZHEM|MALO POVYSHE STRANNO|GORAZDO VYSOKO|ZELO|ON|RAVNO|TIKHAYA|BORZAYA|UDARKA",
      "PODVERTKA|LOMKA|KUPNAYA|KACHKA|ZEVOK|SKOBA|RAZSEKA|KRYZH ON LEFT"]⟩,
    ⟨0x1cf30, "ZNAMENNY COMBINING ", [
      "TONAL RANGE MARK MRACHNO|TONAL RANGE MARK SVETLO|TONAL RANGE MARK TRESVETLO",
      "MARK ZADERZHKA|MARK DEMESTVENNY ZADERZHKA|MARK OTSECHKA|MARK PODCHASHIE",
      "MARK PODCHASHIE WITH VERTICAL STROKE|MARK CHASHKA|MARK CHASHKA POLNAYA|MARK OBLACHKO",
      "MARK SOROCHYA NOZHKA|MARK TOCHKA|MARK DVOETOCHIE|ATTACHING VERTICAL OMET|MARK CURVED OMET",
      "MARK KRYZH|LOWER TONAL RANGE INDICATOR"]⟩,
    ⟨0x1cf42, "ZNAMENNY PRIZNAK MODIFIER ", ["LEVEL-2|LEVEL-3|DIRECTION FLIP|KRYZH|ROG"]⟩,
    ⟨0x1cf50, "ZNAMENNY NEUME ", [
      "KRYUK|KRYUK TIKHY|PARAKLIT|DVA V CHELNU|KLYUCH|ZANOZHEK|STOPITSA|STOPITSA S OCHKOM",
      "PEREVODKA|PEREVODKA NEPOSTOYANNAYA|STOPITSA WITH SOROCHYA NOZHKA|CHELYUSTKA|PALKA",
      "ZAPYATAYA|GOLUBCHIK BORZY|GOLUBCHIK TIKHY|GOLUBCHIK MRACHNY|GOLUBCHIK SVETLY",
      "GOLUBCHIK TRESVETLY|VRAKHIYA PROSTAYA|VRAKHIYA MRACHNAYA|VRAKHIYA SVETLAYA",
      "VRAKHIYA TRESVETLAYA|VRAKHIYA KLYUCHEVAYA PROSTAYA|VRAKHIYA KLYUCHEVAYA MRACHNAYA",
      "VRAKHIYA KLYUCHEVAYA SVETLAYA|VRAKHIYA KLYUCHEVAYA TRESVETLAYA|DOUBLE ZAPYATAYA",
      "REVERSED CHELYUSTKA|DERBITSA|KHAMILO|CHASHKA|PODCHASHIE|SKAMEYTSA MRACHNAYA",
      "SKAMEYTSA SVETLAYA|SKAMEYTSA TRESVETLAYA|SKAMEYTSA TIKHAYA|DEMESTVENNY KLYUCH",
      "SKAMEYTSA KLYUCHEVAYA SVETLAYA|SKAMEYTSA KLYUCHENEPOSTOYANNAYA",
      "SKAMEYTSA KLYUCHEVAYA TIKHAYA|SKAMEYTSA DVOECHELNAYA PROSTAYA",
      "SKAMEYTSA DVOECHELNAYA SVETLAYA|SKAMEYTSA DVOECHELNAYA NEPOSTOYANNAYA",
      "SKAMEYTSA DVOECHELNAYA KLYUCHEVAYA|SLOZHITIE|SLOZHITIE S ZAPYATOY|SLOZHITIE ZAKRYTOE",
      "SLOZHITIE S KRYZHEM|KRYZH|ROG|FITA|KOBYLA|ZMEYTSA|STATYA|STATYA S ZAPYATOY",
      "STATYA S KRYZHEM|STATYA S ZAPYATOY I KRYZHEM|STATYA S KRYZHEM I ZAPYATOY|STATYA ZAKRYTAYA",
      "STATYA ZAKRYTAYA S ZAPYATOY|STATYA S ROGOM|STATYA S DVUMYA ZAPYATYMI",
      "STATYA S ZAPYATOY I PODCHASHIEM|POLKULIZMY|STATYA NEPOSTOYANNAYA"]⟩,
    ⟨0x1cf92, "ZNAMENNY NEUME STRELA ", [
      "PROSTAYA|MRACHNOTIKHAYA|KRYZHEVAYA|POLUPOVODNAYA|POVODNAYA|NEPOSTOYANNAYA",
      "KLYUCHEPOVODNAYA|KLYUCHENEPOSTOYANNAYA|TIKHAYA PUTNAYA|DVOECHELNAYA|DVOECHELNOKRYZHEVAYA",
      "DVOECHELNOPOVODNAYA|DVOECHELNAYA KLYUCHEVAYA|DVOECHELNOPOVODNAYA KLYUCHEVAYA",
      "GROMNAYA WITH SINGLE ZAPYATAYA|GROMOPOVODNAYA WITH SINGLE ZAPYATAYA|GROMNAYA",
      "GROMOPOVODNAYA|GROMOPOVODNAYA WITH DOUBLE ZAPYATAYA|GROMOKRYZHEVAYA",
      "GROMOKRYZHEVAYA POVODNAYA"]⟩,
    ⟨0x1cfa7, "ZNAMENNY NEUME ", [
      "MECHIK|MECHIK POVODNY|MECHIK KLYUCHEVOY|MECHIK KLYUCHEPOVODNY|MECHIK KLYUCHENEPOSTOYANNY",
      "STRELA TRYASOGLASNAYA|STRELA TRYASOPOVODNAYA|STRELA TRYASOSTRELNAYA|OSOKA|OSOKA SVETLAYA",
      "OSOKA TRESVETLAYA|OSOKA KRYUKOVAYA SVETLAYA|OSOKA KLYUCHEVAYA SVETLAYA",
      "OSOKA KLYUCHEVAYA NEPOSTOYANNAYA|STRELA KRYUKOVAYA"]⟩,
    ⟨0x1cfb6, "ZNAMENNY NEUME STRELA KRYUKOVAYA ", [
      "POVODNAYA|GROMNAYA WITH SINGLE ZAPYATAYA|GROMOPOVODNAYA WITH SINGLE ZAPYATAYA|GROMNAYA",
      "GROMOPOVODNAYA|GROMOPOVODNAYA WITH DOUBLE ZAPYATAYA|GROMOKRYZHEVAYA",
      "GROMOKRYZHEVAYA POVODNAYA|TRYASKA"]⟩,
    ⟨0x1cfbf, "ZNAMENNY NEUME ", ["KUFISMA|OBLAKO|DUDA|NEMKA|PAUK"]⟩,
    ⟨0x1d000, "BYZANTINE MUSICAL SYMBOL ", [
      "PSILI|DASEIA|PERISPOMENI|OXEIA EKFONITIKON|OXEIA DIPLI|VAREIA EKFONITIKON|VAREIA DIPLI",
      "KATHISTI|SYRMATIKI|PARAKLITIKI|YPOKRISIS|YPOKRISIS DIPLI|KREMASTI|APESO EKFONITIKON",
      "EXO EKFONITIKON|TELEIA|KENTIMATA|APOSTROFOS|APOSTROFOS DIPLI|SYNEVMA|THITA",
      "OLIGON ARCHAION|GORGON ARCHAION|PSILON|CHAMILON|VATHY|ISON ARCHAION|KENTIMA ARCHAION",
      "KENTIMATA ARCHAION|SAXIMATA|PARICHON|STAVROS APODEXIA|OXEIAI ARCHAION|VAREIAI ARCHAION",
      "APODERMA ARCHAION|APOTHEMA|KLASMA|REVMA|PIASMA ARCHAION|TINAGMA|ANATRICHISMA|SEISMA",
      "SYNAGMA ARCHAION|SYNAGMA META STAVROU|OYRANISMA ARCHAION|THEMA|LEMOI|DYO|TRIA|TESSERA",
      "KRATIMATA|APESO EXO NEO|FTHORA ARCHAION|IMIFTHORA|TROMIKON ARCHAION|KATAVA TROMIKON",
      "PELASTON|PSIFISTON|KONTEVMA|CHOREVMA ARCHAION|RAPISMA|PARAKALESMA ARCHAION",
      "PARAKLITIKI ARCHAION|ICHADIN|NANA|PETASMA|KONTEVMA ALLO|TROMIKON ALLO|STRAGGISMATA",
      "GRONTHISMATA|ISON NEO|OLIGON NEO|OXEIA NEO|PETASTI|KOUFISMA|PETASTOKOUFISMA",
      "KRATIMOKOUFISMA|PELASTON NEO|KENTIMATA NEO ANO|KENTIMA NEO ANO|YPSILI|APOSTROFOS NEO",
      "APOSTROFOI SYNDESMOS NEO|YPORROI|KRATIMOYPORROON|ELAFRON|CHAMILI|MIKRON ISON|VAREIA NEO",
      "PIASMA NEO|PSIFISTON NEO|OMALON|ANTIKENOMA|LYGISMA|PARAKLITIKI NEO|PARAKALESMA NEO",
      "ETERON PARAKALESMA|KYLISMA|ANTIKENOKYLISMA|TROMIKON NEO|EKSTREPTON|SYNAGMA NEO|SYRMA",
      "CHOREVMA NEO|EPEGERMA|SEISMA NEO|XIRON KLASMA|TROMIKOPSIFISTON|PSIFISTOLYGISMA",
      "TROMIKOLYGISMA|TROMIKOPARAKALESMA|PSIFISTOPARAKALESMA|TROMIKOSYNAGMA|PSIFISTOSYNAGMA",
      "GORGOSYNTHETON|ARGOSYNTHETON|ETERON ARGOSYNTHETON|OYRANISMA NEO|THEMATISMOS ESO",
      "THEMATISMOS EXO|THEMA APLOUN|THES KAI APOTHES|KATAVASMA|ENDOFONON|YFEN KATO|YFEN ANO",
      "STAVROS|KLASMA ANO|DIPLI ARCHAION|KRATIMA ARCHAION|KRATIMA ALLO|KRATIMA NEO|APODERMA NEO",
      "APLI|DIPLI|TRIPLI|TETRAPLI|KORONIS|LEIMMA ENOS CHRONOU|LEIMMA DYO CHRONON",
      "LEIMMA TRION CHRONON|LEIMMA TESSARON CHRONON|LEIMMA IMISEOS CHRONOU|GORGON NEO ANO",
      "GORGON PARESTIGMENON ARISTERA|GORGON PARESTIGMENON DEXIA|DIGORGON",
      "DIGORGON PARESTIGMENON ARISTERA KATO|DIGORGON PARESTIGMENON ARISTERA ANO",
      "DIGORGON PARESTIGMENON DEXIA|TRIGORGON|ARGON|IMIDIARGON|DIARGON|AGOGI POLI ARGI",
      "AGOGI ARGOTERI|AGOGI ARGI|AGOGI METRIA|AGOGI MESI|AGOGI GORGI|AGOGI GORGOTERI",
      "AGOGI POLI GORGI|MARTYRIA PROTOS ICHOS|MARTYRIA ALLI PROTOS ICHOS|MARTYRIA DEYTEROS ICHOS",
      "MARTYRIA ALLI DEYTEROS ICHOS|MARTYRIA TRITOS ICHOS|MARTYRIA TRIFONIAS",
      "MARTYRIA TETARTOS ICHOS|MARTYRIA TETARTOS LEGETOS ICHOS|MARTYRIA LEGETOS ICHOS",
      "MARTYRIA PLAGIOS ICHOS|ISAKIA TELOUS ICHIMATOS|APOSTROFOI TELOUS ICHIMATOS",
      "FANEROSIS TETRAFONIAS|FANEROSIS MONOFONIAS|FANEROSIS DIFONIAS|MARTYRIA VARYS ICHOS",
      "MARTYRIA PROTOVARYS ICHOS|MARTYRIA PLAGIOS TETARTOS ICHOS|GORTHMIKON N APLOUN",
      "GORTHMIKON N DIPLOUN|ENARXIS KAI FTHORA VOU|IMIFONON|IMIFTHORON",
      "FTHORA ARCHAION DEYTEROU ICHOU|FTHORA DIATONIKI PA|FTHORA DIATONIKI NANA",
      "FTHORA NAOS ICHOS|FTHORA DIATONIKI DI|FTHORA SKLIRON DIATONON DI|FTHORA DIATONIKI KE",
      "FTHORA DIATONIKI ZO|FTHORA DIATONIKI NI KATO|FTHORA DIATONIKI NI ANO",
      "FTHORA MALAKON CHROMA DIFONIAS|FTHORA MALAKON CHROMA MONOFONIAS",
      "FHTORA SKLIRON CHROMA VASIS|FTHORA SKLIRON CHROMA SYNAFI|FTHORA NENANO|CHROA ZYGOS",
      "CHROA KLITON|CHROA SPATHI|FTHORA I YFESIS TETARTIMORION|FTHORA ENARMONIOS ANTIFONIA",
      "YFESIS TRITIMORION|DIESIS TRITIMORION|DIESIS TETARTIMORION|DIESIS APLI DYO DODEKATA",
      "DIESIS MONOGRAMMOS TESSERA DODEKATA|DIESIS DIGRAMMOS EX DODEKATA",
      "DIESIS TRIGRAMMOS OKTO DODEKATA|YFESIS APLI DYO DODEKATA",
      "YFESIS MONOGRAMMOS TESSERA DODEKATA|YFESIS DIGRAMMOS EX DODEKATA",
      "YFESIS TRIGRAMMOS OKTO DODEKATA|GENIKI DIESIS|GENIKI YFESIS|DIASTOLI APLI MIKRI",
      "DIASTOLI APLI MEGALI|DIASTOLI DIPLI|DIASTOLI THESEOS|SIMANSIS THESEOS",
      "SIMANSIS THESEOS DISIMOU|SIMANSIS THESEOS TRISIMOU|SIMANSIS THESEOS TETRASIMOU",
      "SIMANSIS ARSEOS|SIMANSIS ARSEOS DISIMOU|SIMANSIS ARSEOS TRISIMOU",
      "SIMANSIS ARSEOS TETRASIMOU|DIGRAMMA GG|DIFTOGGOS OU|STIGMA|ARKTIKO PA|ARKTIKO VOU",
      "ARKTIKO GA|ARKTIKO DI|ARKTIKO KE|ARKTIKO ZO|ARKTIKO NI|KENTIMATA NEO MESO",
      "KENTIMA NEO MESO|KENTIMATA NEO KATO|KENTIMA NEO KATO|KLASMA KATO|GORGON NEO KATO"]⟩,
    ⟨0x1d100, "MUSICAL SYMBOL ", [
      "SINGLE BARLINE|DOUBLE BARLINE|FINAL BARLINE|REVERSE FINAL BARLINE|DASHED BARLINE",
      "SHORT BARLINE|LEFT REPEAT SIGN|RIGHT REPEAT SIGN|REPEAT DOTS|DAL SEGNO|DA CAPO|SEGNO|CODA",
      "REPEATED FIGURE-1|REPEATED FIGURE-2|REPEATED FIGURE-3|FERMATA|FERMATA BELOW|BREATH MARK",
      "CAESURA|BRACE|BRACKET|ONE-LINE STAFF|TWO-LINE STAFF|THREE-LINE STAFF|FOUR-LINE STAFF",
      "FIVE-LINE STAFF|SIX-LINE STAFF|SIX-STRING FRETBOARD|FOUR-STRING FRETBOARD|G CLEF",
      "G CLEF OTTAVA ALTA|G CLEF OTTAVA BASSA|C CLEF|F CLEF|F CLEF OTTAVA ALTA",
      "F CLEF OTTAVA BASSA|DRUM CLEF-1|DRUM CLEF-2|||MULTIPLE MEASURE REST|DOUBLE SHARP",
      "DOUBLE FLAT|FLAT UP|FLAT DOWN|NATURAL UP|NATURAL DOWN|SHARP UP|SHARP DOWN",
      "QUARTER TONE SHARP|QUARTER TONE FLAT|COMMON TIME|CUT TIME|OTTAVA ALTA|OTTAVA BASSA",
      "QUINDICESIMA ALTA|QUINDICESIMA BASSA|MULTI REST|WHOLE REST|HALF REST|QUARTER REST",
      "EIGHTH REST|SIXTEENTH REST|THIRTY-SECOND REST|SIXTY-FOURTH REST",
      "ONE HUNDRED TWENTY-EIGHTH REST|X NOTEHEAD|PLUS NOTEHEAD|CIRCLE X NOTEHEAD",
      "SQUARE NOTEHEAD WHITE|SQUARE NOTEHEAD BLACK"]⟩,
    ⟨0x1d148, "MUSICAL SYMBOL TRIANGLE NOTEHEAD ", [
      "UP WHITE|UP BLACK|LEFT WHITE|LEFT BLACK|RIGHT WHITE|RIGHT BLACK|DOWN WHITE|DOWN BLACK",
      "UP RIGHT WHITE|UP RIGHT BLACK"]⟩,
    ⟨0x1d152, "MUSICAL SYMBOL ", [
      "MOON NOTEHEAD WHITE|MOON NOTEHEAD BLACK|TRIANGLE-ROUND NOTEHEAD DOWN WHITE",
      "TRIANGLE-ROUND NOTEHEAD DOWN BLACK|PARENTHESIS NOTEHEAD|VOID NOTEHEAD|NOTEHEAD BLACK",
      "NULL NOTEHEAD|CLUSTER NOTEHEAD WHITE|CLUSTER NOTEHEAD BLACK|BREVE|WHOLE NOTE|HALF NOTE",
      "QUARTER NOTE|EIGHTH NOTE|SIXTEENTH NOTE|THIRTY-SECOND NOTE|SIXTY-FOURTH NOTE",
      "ONE HUNDRED TWENTY-EIGHTH NOTE|COMBINING STEM|COMBINING SPRECHGESANG STEM",
      "COMBINING TREMOLO-1|COMBINING TREMOLO-2|COMBINING TREMOLO-3|FINGERED TREMOLO-1",
      "FINGERED TREMOLO-2|FINGERED TREMOLO-3|COMBINING AUGMENTATION DOT|COMBINING FLAG-1",
      "COMBINING FLAG-2|COMBINING FLAG-3|COMBINING FLAG-4|COMBINING FLAG-5|BEGIN BEAM|END BEAM",
      "BEGIN TIE|END TIE|BEGIN SLUR|END SLUR|BEGIN PHRASE|END PHRASE|COMBINING ACCENT",
      "COMBINING STACCATO|COMBINING TENUTO|COMBINING STACCATISSIMO|COMBINING MARCATO",
      "COMBINING MARCATO-STACCATO|COMBINING ACCENT-STACCATO|COMBINING LOURE|ARPEGGIATO UP",
      "ARPEGGIATO DOWN|COMBINING DOIT|COMBINING RIP|COMBINING FLIP|COMBINING SMEAR",
      "COMBINING BEND|COMBINING DOUBLE TONGUE|COMBINING TRIPLE TONGUE|RINFORZANDO|SUBITO|Z|PIANO",
      "MEZZO|FORTE|CRESCENDO|DECRESCENDO|GRACE NOTE SLASH|GRACE NOTE NO SLASH|TR|TURN",
      "INVERTED TURN|TURN SLASH|TURN UP"]⟩,
    ⟨0x1d19b, "MUSICAL SYMBOL ORNAMENT STROKE-", ["1|2|3|4|5|6|7|8|9|10|11"]⟩,
    ⟨0x1d1a6, "MUSICAL SYMBOL ", [
      "HAUPTSTIMME|NEBENSTIMME|END OF STIMME|DEGREE SLASH|COMBINING DOWN BOW|COMBINING UP BOW",
      "COMBINING HARMONIC|COMBINING SNAP PIZZICATO|PEDAL MARK|PEDAL UP MARK|HALF PEDAL MARK",
      "GLISSANDO UP|GLISSANDO DOWN|WITH FINGERNAILS|DAMP|DAMP ALL|MAXIMA|LONGA|BREVIS",
      "SEMIBREVIS WHITE|SEMIBREVIS BLACK|MINIMA|MINIMA BLACK|SEMIMINIMA WHITE|SEMIMINIMA BLACK",
      "FUSA WHITE|FUSA BLACK|LONGA PERFECTA REST|LONGA IMPERFECTA REST|BREVIS REST",
      "SEMIBREVIS REST|MINIMA REST|SEMIMINIMA REST|TEMPUS PERFECTUM CUM PROLATIONE PERFECTA",
      "TEMPUS PERFECTUM CUM PROLATIONE IMPERFECTA",
      "TEMPUS PERFECTUM CUM PROLATIONE PERFECTA DIMINUTION-1"]⟩,
    ⟨0x1d1ca, "MUSICAL SYMBOL TEMPUS IMPERFECTUM CUM PROLATIONE ", [
      "PERFECTA|IMPERFECTA|IMPERFECTA DIMINUTION-1|IMPERFECTA DIMINUTION-2",
      "IMPERFECTA DIMINUTION-3"]⟩,
    ⟨0x1d1cf, "MUSICAL SYMBOL ", [
      "CROIX|GREGORIAN C CLEF|GREGORIAN F CLEF|SQUARE B|VIRGA|PODATUS|CLIVIS|SCANDICUS|CLIMACUS",
      "TORCULUS|PORRECTUS|PORRECTUS FLEXUS|SCANDICUS FLEXUS|TORCULUS RESUPINUS|PES SUBPUNCTIS",
      "KIEVAN C CLEF|KIEVAN END OF PIECE|KIEVAN FINAL NOTE|KIEVAN RECITATIVE MARK",
      "KIEVAN WHOLE NOTE|KIEVAN HALF NOTE|KIEVAN QUARTER NOTE STEM DOWN",
      "KIEVAN QUARTER NOTE STEM UP|KIEVAN EIGHTH NOTE STEM DOWN|KIEVAN EIGHTH NOTE STEM UP",
      "KIEVAN FLAT SIGN|SORI|KORON"]⟩,
    ⟨0x1d200, "GREEK VOCAL NOTATION SYMBOL-", [
      "1|2|3|4|5|6|7|8|9|10|11|12|13|14|15|16|17|18|19|20|21|22|23|24|50|51|52|53|54"]⟩,
    ⟨0x1d21d, "GREEK INSTRUMENTAL NOTATION SYMBOL-", [
      "1|2|4|5|7|8|11|12|13|14|17|18|19|23|24|25|26|27|29|30|32|36|37|38|39|40|42|43|45|47|48|49",
      "50|51|52|53|54"]⟩,
    ⟨0x1d242, "", [
      "COMBINING GREEK MUSICAL TRISEME|COMBINING GREEK MUSICAL TETRASEME",
      "COMBINING GREEK MUSICAL PENTASEME|GREEK MUSICAL LEIMMA"]⟩,
    ⟨0x1d2e0, "MAYAN NUMERAL ", [
      "ZERO|ONE|TWO|THREE|FOUR|FIVE|SIX|SEVEN|EIGHT|NINE|TEN|ELEVEN|TWELVE|THIRTEEN|FOURTEEN",
      "FIFTEEN|SIXTEEN|SEVENTEEN|EIGHTEEN|NINETEEN"]⟩,
    ⟨0x1d300, "", [
      "MONOGRAM FOR EARTH|DIGRAM FOR HEAVENLY EARTH|DIGRAM FOR HUMAN EARTH",
      "DIGRAM FOR EARTHLY HEAVEN|DIGRAM FOR EARTHLY HUMAN|DIGRAM FOR EARTH"]⟩,
    ⟨0x1d306, "TETRAGRAM FOR ", [
      "CENTRE|FULL CIRCLE|MIRED|BARRIER|KEEPING SMALL|CONTRARIETY|ASCENT|OPPOSITION",
      "BRANCHING OUT|DEFECTIVENESS OR DISTORTION|DIVERGENCE|YOUTHFULNESS|INCREASE|PENETRATION",
      "REACH|CONTACT|HOLDING BACK|WAITING|FOLLOWING|ADVANCE|RELEASE|RESISTANCE|EASE|JOY",
      "CONTENTION|ENDEAVOUR|DUTIES|CHANGE|DECISIVENESS|BOLD RESOLUTION|PACKING|LEGION|CLOSENESS",
      "KINSHIP|GATHERING|STRENGTH|PURITY|FULLNESS|RESIDENCE|LAW OR MODEL|RESPONSE|GOING TO MEET",
      "ENCOUNTERS|STOVE|GREATNESS|ENLARGEMENT|PATTERN|RITUAL|FLIGHT|VASTNESS OR WASTING",
      "CONSTANCY|MEASURE|ETERNITY|UNITY|DIMINISHMENT|CLOSED MOUTH|GUARDEDNESS|GATHERING IN",
      "MASSING|ACCUMULATION|EMBELLISHMENT|DOUBT|WATCH|SINKING|INNER|DEPARTURE|DARKENING|DIMMING",
      "EXHAUSTION|SEVERANCE|STOPPAGE|HARDNESS|COMPLETION|CLOSURE|FAILURE|AGGRAVATION|COMPLIANCE",
      "ON THE VERGE|DIFFICULTIES|LABOURING|FOSTERING"]⟩,
    ⟨0x1d360, "COUNTING ROD UNIT DIGIT ", ["ONE|TWO|THREE|FOUR|FIVE|SIX|SEVEN|EIGHT|NINE"]⟩,
    ⟨0x1d369, "COUNTING ROD TENS DIGIT ", ["ONE|TWO|THREE|FOUR|FIVE|SIX|SEVEN|EIGHT|NINE"]⟩,
    ⟨0x1d372, "IDEOGRAPHIC TALLY MARK ", ["ONE|TWO|THREE|FOUR|FIVE"]⟩,
    ⟨0x1d377, "TALLY MARK ", ["ONE|FIVE"]⟩,
    ⟨0x1d400, "MATHEMATICAL BOLD CAPITAL ", [
      "A|B|C|D|E|F|G|H|I|J|K|L|M|N|O|P|Q|R|S|T|U|V|W|X|Y|Z"]⟩,
    ⟨0x1d41a, "MATHEMATICAL BOLD SMALL ", ["A|B|C|D|E|F|G|H|I|J|K|L|M|N|O|P|Q|R|S|T|U|V|W|X|Y|Z"]⟩,
    ⟨0x1d434, "MATHEMATICAL ITALIC CAPITAL ", [
      "A|B|C|D|E|F|G|H|I|J|K|L|M|N|O|P|Q|R|S|T|U|V|W|X|Y|Z"]⟩,
    ⟨0x1d44e, "MATHEMATICAL ITALIC SMALL ", [
      "A|B|C|D|E|F|G||I|J|K|L|M|N|O|P|Q|R|S|T|U|V|W|X|Y|Z"]⟩,
    ⟨0x1d468, "MATHEMATICAL BOLD ITALIC CAPITAL ", [
      "A|B|C|D|E|F|G|H|I|J|K|L|M|N|O|P|Q|R|S|T|U|V|W|X|Y|Z"]⟩,
    ⟨0x1d482, "MATHEMATICAL BOLD ITALIC SMALL ", [
      "A|B|C|D|E|F|G|H|I|J|K|L|M|N|O|P|Q|R|S|T|U|V|W|X|Y|Z"]⟩,
    ⟨0x1d49c, "MATHEMATICAL SCRIPT CAPITAL ", ["A||C|D|||G|||J|K|||N|O|P|Q||S|T|U|V|W|X|Y|Z"]⟩,
    ⟨0x1d4b6, "MATHEMATICAL SCRIPT SMALL ", ["A|B|C|D||F||H|I|J|K|L|M|N||P|Q|R|S|T|U|V|W|X|Y|Z"]⟩,
    ⟨0x1d4d0, "MATHEMATICAL BOLD SCRIPT CAPITAL ", [
      "A|B|C|D|E|F|G|H|I|J|K|L|M|N|O|P|Q|R|S|T|U|V|W|X|Y|Z"]⟩,
    ⟨0x1d4ea, "MATHEMATICAL BOLD SCRIPT SMALL ", [
      "A|B|C|D|E|F|G|H|I|J|K|L|M|N|O|P|Q|R|S|T|U|V|W|X|Y|Z"]⟩,
    ⟨0x1d504, "MATHEMATICAL FRAKTUR CAPITAL ", ["A|B||D|E|F|G|||J|K|L|M|N|O|P|Q||S|T|U|V|W|X|Y"]⟩,
    ⟨0x1d51e, "MATHEMATICAL FRAKTUR SMALL ", [
      "A|B|C|D|E|F|G|H|I|J|K|L|M|N|O|P|Q|R|S|T|U|V|W|X|Y|Z"]⟩,
    ⟨0x1d538, "MATHEMATICAL DOUBLE-STRUCK CAPITAL ", [
      "A|B||D|E|F|G||I|J|K|L|M||O||||S|T|U|V|W|X|Y"]⟩,
    ⟨0x1d552, "MATHEMATICAL DOUBLE-STRUCK SMALL ", [
      "A|B|C|D|E|F|G|H|I|J|K|L|M|N|O|P|Q|R|S|T|U|V|W|X|Y|Z"]⟩,
    ⟨0x1d56c, "MATHEMATICAL BOLD FRAKTUR CAPITAL ", [
      "A|B|C|D|E|F|G|H|I|J|K|L|M|N|O|P|Q|R|S|T|U|V|W|X|Y|Z"]⟩,
    ⟨0x1d586, "MATHEMATICAL BOLD FRAKTUR SMALL ", [
      "A|B|C|D|E|F|G|H|I|J|K|L|M|N|O|P|Q|R|S|T|U|V|W|X|Y|Z"]⟩,
    ⟨0x1d5a0, "MATHEMATICAL SANS-SERIF CAPITAL ", [
      "A|B|C|D|E|F|G|H|I|J|K|L|M|N|O|P|Q|R|S|T|U|V|W|X|Y|Z"]⟩,
    ⟨0x1d5ba, "MATHEMATICAL SANS-SERIF SMALL ", [
      "A|B|C|D|E|F|G|H|I|J|K|L|M|N|O|P|Q|R|S|T|U|V|W|X|Y|Z"]⟩,
    ⟨0x1d5d4, "MATHEMATICAL SANS-SERIF BOLD CAPITAL ", [
      "A|B|C|D|E|F|G|H|I|J|K|L|M|N|O|P|Q|R|S|T|U|V|W|X|Y|Z"]⟩,
    ⟨0x1d5ee, "MATHEMATICAL SANS-SERIF BOLD SMALL ", [
      "A|B|C|D|E|F|G|H|I|J|K|L|M|N|O|P|Q|R|S|T|U|V|W|X|Y|Z"]⟩,
    ⟨0x1d608, "MATHEMATICAL SANS-SERIF ITALIC CAPITAL ", [
      "A|B|C|D|E|F|G|H|I|J|K|L|M|N|O|P|Q|R|S|T|U|V|W|X|Y|Z"]⟩,
    ⟨0x1d622, "MATHEMATICAL SANS-SERIF ITALIC SMALL ", [
      "A|B|C|D|E|F|G|H|I|J|K|L|M|N|O|P|Q|R|S|T|U|V|W|X|Y|Z"]⟩,
    ⟨0x1d63c, "MATHEMATICAL SANS-SERIF BOLD ITALIC CAPITAL ", [
      "A|B|C|D|E|F|G|H|I|J|K|L|M|N|O|P|Q|R|S|T|U|V|W|X|Y|Z"]⟩,
    ⟨0x1d656, "MATHEMATICAL SANS-SERIF BOLD ITALIC SMALL ", [
      "A|B|C|D|E|F|G|H|I|J|K|L|M|N|O|P|Q|R|S|T|U|V|W|X|Y|Z"]⟩,
    ⟨0x1d670, "MATHEMATICAL MONOSPACE CAPITAL ", [
      "A|B|C|D|E|F|G|H|I|J|K|L|M|N|O|P|Q|R|S|T|U|V|W|X|Y|Z"]⟩,
    ⟨0x1d68a, "MATHEMATICAL MONOSPACE SMALL ", [
      "A|B|C|D|E|F|G|H|I|J|K|L|M|N|O|P|Q|R|S|T|U|V|W|X|Y|Z"]⟩,
    ⟨0x1d6a4, "MATHEMATICAL ITALIC SMALL DOTLESS ", ["I|J"]⟩,
    ⟨0x1d6a8, "MATHEMATICAL BOLD CAPITAL ", [
      "ALPHA|BETA|GAMMA|DELTA|EPSILON|ZETA|ETA|THETA|IOTA|KAPPA|LAMDA|MU|NU|XI|OMICRON|PI|RHO",
      "THETA SYMBOL|SIGMA|TAU|UPSILON|PHI|CHI|PSI|OMEGA"]⟩,
    ⟨0x1d6c1, "MATHEMATICAL BOLD ", ["NABLA"]⟩,
    ⟨0x1d6c2, "MATHEMATICAL BOLD SMALL ", [
      "ALPHA|BETA|GAMMA|DELTA|EPSILON|ZETA|ETA|THETA|IOTA|KAPPA|LAMDA|MU|NU|XI|OMICRON|PI|RHO",
      "FINAL SIGMA|SIGMA|TAU|UPSILON|PHI|CHI|PSI|OMEGA"]⟩,
    ⟨0x1d6db, "MATHEMATICAL BOLD ", [
      "PARTIAL DIFFERENTIAL|EPSILON SYMBOL|THETA SYMBOL|KAPPA SYMBOL|PHI SYMBOL|RHO SYMBOL",
      "PI SYMBOL"]⟩,
    ⟨0x1d6e2, "MATHEMATICAL ITALIC CAPITAL ", [
      "ALPHA|BETA|GAMMA|DELTA|EPSILON|ZETA|ETA|THETA|IOTA|KAPPA|LAMDA|MU|NU|XI|OMICRON|PI|RHO",
      "THETA SYMBOL|SIGMA|TAU|UPSILON|PHI|CHI|PSI|OMEGA"]⟩,
    ⟨0x1d6fb, "MATHEMATICAL ITALIC ", ["NABLA"]⟩,
    ⟨0x1d6fc, "MATHEMATICAL ITALIC SMALL ", [
      "ALPHA|BETA|GAMMA|DELTA|EPSILON|ZETA|ETA|THETA|IOTA|KAPPA|LAMDA|MU|NU|XI|OMICRON|PI|RHO",
      "FINAL SIGMA|SIGMA|TAU|UPSILON|PHI|CHI|PSI|OMEGA"]⟩,
    ⟨0x1d715, "MATHEMATICAL ITALIC ", [
      "PARTIAL DIFFERENTIAL|EPSILON SYMBOL|THETA SYMBOL|KAPPA SYMBOL|PHI SYMBOL|RHO SYMBOL",
      "PI SYMBOL"]⟩,
    ⟨0x1d71c, "MATHEMATICAL BOLD ITALIC CAPITAL ", [
      "ALPHA|BETA|GAMMA|DELTA|EPSILON|ZETA|ETA|THETA|IOTA|KAPPA|LAMDA|MU|NU|XI|OMICRON|PI|RHO",
      "THETA SYMBOL|SIGMA|TAU|UPSILON|PHI|CHI|PSI|OMEGA"]⟩,
    ⟨0x1d735, "MATHEMATICAL BOLD ITALIC ", [
      "NABLA|SMALL ALPHA|SMALL BETA|SMALL GAMMA|SMALL DELTA|SMALL EPSILON|SMALL ZETA|SMALL ETA",
      "SMALL THETA|SMALL IOTA|SMALL KAPPA|SMALL LAMDA|SMALL MU|SMALL NU|SMALL XI|SMALL OMICRON",
      "SMALL PI|SMALL RHO|SMALL FINAL SIGMA|SMALL SIGMA|SMALL TAU|SMALL UPSILON|SMALL PHI",
      "SMALL CHI|SMALL PSI|SMALL OMEGA|PARTIAL DIFFERENTIAL|EPSILON SYMBOL|THETA SYMBOL",
      "KAPPA SYMBOL|PHI SYMBOL|RHO SYMBOL|PI SYMBOL"]⟩,
    ⟨0x1d756, "MATHEMATICAL SANS-SERIF BOLD CAPITAL ", [
      "ALPHA|BETA|GAMMA|DELTA|EPSILON|ZETA|ETA|THETA|IOTA|KAPPA|LAMDA|MU|NU|XI|OMICRON|PI|RHO",
      "THETA SYMBOL|SIGMA|TAU|UPSILON|PHI|CHI|PSI|OMEGA"]⟩,
    ⟨0x1d76f, "MATHEMATICAL SANS-SERIF BOLD ", [
      "NABLA|SMALL ALPHA|SMALL BETA|SMALL GAMMA|SMALL DELTA|SMALL EPSILON|SMALL ZETA|SMALL ETA",
      "SMALL THETA|SMALL IOTA|SMALL KAPPA|SMALL LAMDA|SMALL MU|SMALL NU|SMALL XI|SMALL OMICRON",
      "SMALL PI|SMALL RHO|SMALL FINAL SIGMA|SMALL SIGMA|SMALL TAU|SMALL UPSILON|SMALL PHI",
      "SMALL CHI|SMALL PSI|SMALL OMEGA|PARTIAL DIFFERENTIAL|EPSILON SYMBOL|THETA SYMBOL",
      "KAPPA SYMBOL|PHI SYMBOL|RHO SYMBOL|PI SYMBOL"]⟩,
    ⟨0x1d790, "MATHEMATICAL SANS-SERIF BOLD ITALIC CAPITAL ", [
      "ALPHA|BETA|GAMMA|DELTA|EPSILON|ZETA|ETA|THETA|IOTA|KAPPA|LAMDA|MU|NU|XI|OMICRON|PI|RHO",
      "THETA SYMBOL|SIGMA|TAU|UPSILON|PHI|CHI|PSI|OMEGA"]⟩,
    ⟨0x1d7a9, "MATHEMATICAL SANS-SERIF BOLD ITALIC ", [
      "NABLA|SMALL ALPHA|SMALL BETA|SMALL GAMMA|SMALL DELTA|SMALL EPSILON|SMALL ZETA|SMALL ETA",
      "SMALL THETA|SMALL IOTA|SMALL KAPPA|SMALL LAMDA|SMALL MU|SMALL NU|SMALL XI|SMALL OMICRON",
      "SMALL PI|SMALL RHO|SMALL FINAL SIGMA|SMALL SIGMA|SMALL TAU|SMALL UPSILON|SMALL PHI",
      "SMALL CHI|SMALL PSI|SMALL OMEGA|PARTIAL DIFFERENTIAL|EPSILON SYMBOL|THETA SYMBOL",
      "KAPPA SYMBOL|PHI SYMBOL|RHO SYMBOL|PI SYMBOL"]⟩,
    ⟨0x1d7ca, "MATHEMATICAL BOLD ", [
      "CAPITAL DIGAMMA|SMALL DIGAMMA|||DIGIT ZERO|DIGIT ONE|DIGIT TWO|DIGIT THREE|DIGIT FOUR",
      "DIGIT FIVE|DIGIT SIX|DIGIT SEVEN|DIGIT EIGHT|DIGIT NINE"]⟩,
    ⟨0x1d7d8, "MATHEMATICAL DOUBLE-STRUCK DIGIT ", [
      "ZERO|ONE|TWO|THREE|FOUR|FIVE|SIX|SEVEN|EIGHT|NINE"]⟩,
    ⟨0x1d7e2, "MATHEMATICAL SANS-SERIF DIGIT ", [
      "ZERO|ONE|TWO|THREE|FOUR|FIVE|SIX|SEVEN|EIGHT|NINE"]⟩,
    ⟨0x1d7ec, "MATHEMATICAL SANS-SERIF BOLD DIGIT ", [
      "ZERO|ONE|TWO|THREE|FOUR|FIVE|SIX|SEVEN|EIGHT|NINE"]⟩,
    ⟨0x1d7f6, "MATHEMATICAL MONOSPACE DIGIT ", [
      "ZERO|ONE|TWO|THREE|FOUR|FIVE|SIX|SEVEN|EIGHT|NINE"]⟩,
    ⟨0x1d800, "SIGNWRITING HAND-", [
      "FIST INDEX|CIRCLE INDEX|CUP INDEX|OVAL INDEX|HINGE INDEX|ANGLE INDEX|FIST INDEX BENT",
      "CIRCLE INDEX BENT|FIST THUMB UNDER INDEX BENT|FIST INDEX RAISED KNUCKLE|FIST INDEX CUPPED",
      "FIST INDEX HINGED|FIST INDEX HINGED LOW|CIRCLE INDEX HINGE|FIST INDEX MIDDLE",
      "CIRCLE INDEX MIDDLE|FIST INDEX MIDDLE BENT|FIST INDEX MIDDLE RAISED KNUCKLES",
      "FIST INDEX MIDDLE HINGED|FIST INDEX UP MIDDLE HINGED|FIST INDEX HINGED MIDDLE UP",
      "FIST INDEX MIDDLE CONJOINED|FIST INDEX MIDDLE CONJOINED INDEX BENT",
      "FIST INDEX MIDDLE CONJOINED MIDDLE BENT|FIST INDEX MIDDLE CONJOINED CUPPED",
      "FIST INDEX MIDDLE CONJOINED HINGED|FIST INDEX MIDDLE CROSSED|CIRCLE INDEX MIDDLE CROSSED",
      "FIST MIDDLE BENT OVER INDEX|FIST INDEX BENT OVER MIDDLE|FIST INDEX MIDDLE THUMB",
      "CIRCLE INDEX MIDDLE THUMB"]⟩,
    ⟨0x1d820, "SIGNWRITING HAND-FIST ", [
      "INDEX MIDDLE STRAIGHT THUMB BENT|INDEX MIDDLE BENT THUMB STRAIGHT|INDEX MIDDLE THUMB BENT",
      "INDEX MIDDLE HINGED SPREAD THUMB SIDE|INDEX UP MIDDLE HINGED THUMB SIDE",
      "INDEX UP MIDDLE HINGED THUMB CONJOINED|INDEX HINGED MIDDLE UP THUMB SIDE",
      "INDEX MIDDLE UP SPREAD THUMB FORWARD|INDEX MIDDLE THUMB CUPPED|INDEX MIDDLE THUMB CIRCLED",
      "INDEX MIDDLE THUMB HOOKED|INDEX MIDDLE THUMB HINGED|THUMB BETWEEN INDEX MIDDLE STRAIGHT",
      "INDEX MIDDLE CONJOINED THUMB SIDE|INDEX MIDDLE CONJOINED THUMB SIDE CONJOINED",
      "INDEX MIDDLE CONJOINED THUMB SIDE BENT|MIDDLE THUMB HOOKED INDEX UP",
      "INDEX THUMB HOOKED MIDDLE UP|INDEX MIDDLE CONJOINED HINGED THUMB SIDE",
      "INDEX MIDDLE CROSSED THUMB SIDE|INDEX MIDDLE CONJOINED THUMB FORWARD",
      "INDEX MIDDLE CONJOINED CUPPED THUMB FORWARD|MIDDLE THUMB CUPPED INDEX UP",
      "INDEX THUMB CUPPED MIDDLE UP|MIDDLE THUMB CIRCLED INDEX UP",
      "MIDDLE THUMB CIRCLED INDEX HINGED|INDEX THUMB ANGLED OUT MIDDLE UP",
      "INDEX THUMB ANGLED IN MIDDLE UP|INDEX THUMB CIRCLED MIDDLE UP",
      "INDEX MIDDLE THUMB CONJOINED HINGED|INDEX MIDDLE THUMB ANGLED OUT",
      "INDEX MIDDLE THUMB ANGLED|MIDDLE THUMB ANGLED OUT INDEX UP",
      "MIDDLE THUMB ANGLED OUT INDEX CROSSED|MIDDLE THUMB ANGLED INDEX UP",
      "INDEX THUMB HOOKED MIDDLE HINGED"]⟩,
    ⟨0x1d844, "SIGNWRITING HAND-", [
      "FLAT FOUR FINGERS|FLAT FOUR FINGERS BENT|FLAT FOUR FINGERS HINGED",
      "FLAT FOUR FINGERS CONJOINED|FLAT FOUR FINGERS CONJOINED SPLIT|CLAW FOUR FINGERS CONJOINED",
      "FIST FOUR FINGERS CONJOINED BENT|HINGE FOUR FINGERS CONJOINED|FLAT FIVE FINGERS SPREAD",
      "FLAT HEEL FIVE FINGERS SPREAD|FLAT FIVE FINGERS SPREAD FOUR BENT",
      "FLAT HEEL FIVE FINGERS SPREAD FOUR BENT|FLAT FIVE FINGERS SPREAD BENT",
      "FLAT HEEL FIVE FINGERS SPREAD BENT|FLAT FIVE FINGERS SPREAD THUMB FORWARD",
      "CUP FIVE FINGERS SPREAD|CUP FIVE FINGERS SPREAD OPEN|HINGE FIVE FINGERS SPREAD OPEN",
      "OVAL FIVE FINGERS SPREAD|FLAT FIVE FINGERS SPREAD HINGED",
      "FLAT FIVE FINGERS SPREAD HINGED THUMB SIDE|FLAT FIVE FINGERS SPREAD HINGED NO THUMB|FLAT",
      "FLAT BETWEEN PALM FACINGS|FLAT HEEL|FLAT THUMB SIDE|FLAT HEEL THUMB SIDE|FLAT THUMB BENT",
      "FLAT THUMB FORWARD|FLAT SPLIT INDEX THUMB SIDE|FLAT SPLIT CENTRE",
      "FLAT SPLIT CENTRE THUMB SIDE|FLAT SPLIT CENTRE THUMB SIDE BENT|FLAT SPLIT LITTLE|CLAW",
      "CLAW THUMB SIDE|CLAW NO THUMB|CLAW THUMB FORWARD|HOOK CURLICUE|HOOK|CUP OPEN|CUP",
      "CUP OPEN THUMB SIDE|CUP THUMB SIDE|CUP OPEN NO THUMB|CUP NO THUMB|CUP OPEN THUMB FORWARD",
      "CUP THUMB FORWARD|CURLICUE OPEN|CURLICUE|CIRCLE|OVAL|OVAL THUMB SIDE|OVAL NO THUMB",
      "OVAL THUMB FORWARD|HINGE OPEN|HINGE OPEN THUMB FORWARD|HINGE|HINGE SMALL",
      "HINGE OPEN THUMB SIDE|HINGE THUMB SIDE|HINGE OPEN NO THUMB|HINGE NO THUMB",
      "HINGE THUMB SIDE TOUCHING INDEX|HINGE THUMB BETWEEN MIDDLE RING|ANGLE",
      "FIST INDEX MIDDLE RING|CIRCLE INDEX MIDDLE RING|HINGE INDEX MIDDLE RING",
      "ANGLE INDEX MIDDLE RING|HINGE LITTLE|FIST INDEX MIDDLE RING BENT",
      "FIST INDEX MIDDLE RING CONJOINED|HINGE INDEX MIDDLE RING CONJOINED|FIST LITTLE DOWN",
      "FIST LITTLE DOWN RIPPLE STRAIGHT|FIST LITTLE DOWN RIPPLE CURVED",
      "FIST LITTLE DOWN OTHERS CIRCLED|FIST LITTLE UP|FIST THUMB UNDER LITTLE UP",
      "CIRCLE LITTLE UP|OVAL LITTLE UP|ANGLE LITTLE UP|FIST LITTLE RAISED KNUCKLE",
      "FIST LITTLE BENT|FIST LITTLE TOUCHES THUMB|FIST LITTLE THUMB|HINGE LITTLE THUMB",
      "FIST LITTLE INDEX THUMB|HINGE LITTLE INDEX THUMB|ANGLE LITTLE INDEX THUMB INDEX THUMB OUT",
      "ANGLE LITTLE INDEX THUMB INDEX THUMB|FIST LITTLE INDEX|CIRCLE LITTLE INDEX",
      "HINGE LITTLE INDEX|ANGLE LITTLE INDEX|FIST INDEX MIDDLE LITTLE|CIRCLE INDEX MIDDLE LITTLE",
      "HINGE INDEX MIDDLE LITTLE|HINGE RING|ANGLE INDEX MIDDLE LITTLE",
      "FIST INDEX MIDDLE CROSS LITTLE|CIRCLE INDEX MIDDLE CROSS LITTLE|FIST RING DOWN",
      "HINGE RING DOWN INDEX THUMB HOOK MIDDLE|ANGLE RING DOWN MIDDLE THUMB INDEX CROSS",
      "FIST RING UP|FIST RING RAISED KNUCKLE|FIST RING LITTLE|CIRCLE RING LITTLE",
      "OVAL RING LITTLE|ANGLE RING LITTLE|FIST RING MIDDLE|FIST RING MIDDLE CONJOINED",
      "FIST RING MIDDLE RAISED KNUCKLES|FIST RING INDEX|FIST RING THUMB|HOOK RING THUMB",
      "FIST INDEX RING LITTLE|CIRCLE INDEX RING LITTLE|CURLICUE INDEX RING LITTLE ON",
      "HOOK INDEX RING LITTLE OUT|HOOK INDEX RING LITTLE IN|HOOK INDEX RING LITTLE UNDER",
      "CUP INDEX RING LITTLE|HINGE INDEX RING LITTLE|ANGLE INDEX RING LITTLE OUT",
      "ANGLE INDEX RING LITTLE|FIST MIDDLE DOWN|HINGE MIDDLE|FIST MIDDLE UP|CIRCLE MIDDLE UP",
      "FIST MIDDLE RAISED KNUCKLE|FIST MIDDLE UP THUMB SIDE|HOOK MIDDLE THUMB",
      "FIST MIDDLE THUMB LITTLE|FIST MIDDLE LITTLE|FIST MIDDLE RING LITTLE",
      "CIRCLE MIDDLE RING LITTLE|CURLICUE MIDDLE RING LITTLE ON|CUP MIDDLE RING LITTLE",
      "HINGE MIDDLE RING LITTLE|ANGLE MIDDLE RING LITTLE OUT|ANGLE MIDDLE RING LITTLE IN",
      "ANGLE MIDDLE RING LITTLE|CIRCLE MIDDLE RING LITTLE BENT|CLAW MIDDLE RING LITTLE CONJOINED",
      "CLAW MIDDLE RING LITTLE CONJOINED SIDE|HOOK MIDDLE RING LITTLE CONJOINED OUT",
      "HOOK MIDDLE RING LITTLE CONJOINED IN|HOOK MIDDLE RING LITTLE CONJOINED|HINGE INDEX HINGED",
      "FIST INDEX THUMB SIDE|HINGE INDEX THUMB SIDE"]⟩,
    ⟨0x1d8de, "SIGNWRITING HAND-FIST INDEX THUMB ", [
      "SIDE THUMB DIAGONAL|SIDE THUMB CONJOINED|SIDE THUMB BENT|SIDE INDEX BENT|SIDE BOTH BENT",
      "SIDE INDEX HINGE|FORWARD INDEX STRAIGHT|FORWARD INDEX BENT|HOOK|CURLICUE",
      "CURVE THUMB INSIDE"]⟩,
    ⟨0x1d8e9, "SIGNWRITING HAND-", [
      "CLAW INDEX THUMB CURVE THUMB INSIDE|FIST INDEX THUMB CURVE THUMB UNDER",
      "FIST INDEX THUMB CIRCLE|CUP INDEX THUMB|CUP INDEX THUMB OPEN|HINGE INDEX THUMB OPEN",
      "HINGE INDEX THUMB LARGE|HINGE INDEX THUMB|HINGE INDEX THUMB SMALL|ANGLE INDEX THUMB OUT",
      "ANGLE INDEX THUMB IN|ANGLE INDEX THUMB|FIST THUMB"]⟩,
    ⟨0x1d8f6, "SIGNWRITING HAND-FIST THUMB ", [
      "HEEL|SIDE DIAGONAL|SIDE CONJOINED|SIDE BENT|FORWARD|BETWEEN INDEX MIDDLE",
      "BETWEEN MIDDLE RING|BETWEEN RING LITTLE|UNDER TWO FINGERS|OVER TWO FINGERS",
      "UNDER THREE FINGERS|UNDER FOUR FINGERS|OVER FOUR RAISED KNUCKLES"]⟩,
    ⟨0x1d903, "SIGNWRITING ", [
      "HAND-FIST|HAND-FIST HEEL|TOUCH SINGLE|TOUCH MULTIPLE|TOUCH BETWEEN|GRASP SINGLE",
      "GRASP MULTIPLE|GRASP BETWEEN|STRIKE SINGLE|STRIKE MULTIPLE|STRIKE BETWEEN|BRUSH SINGLE",
      "BRUSH MULTIPLE|BRUSH BETWEEN|RUB SINGLE|RUB MULTIPLE|RUB BETWEEN|SURFACE SYMBOLS",
      "SURFACE BETWEEN|SQUEEZE LARGE SINGLE|SQUEEZE SMALL SINGLE|SQUEEZE LARGE MULTIPLE",
      "SQUEEZE SMALL MULTIPLE|SQUEEZE SEQUENTIAL|FLICK LARGE SINGLE|FLICK SMALL SINGLE",
      "FLICK LARGE MULTIPLE|FLICK SMALL MULTIPLE|FLICK SEQUENTIAL|SQUEEZE FLICK ALTERNATING"]⟩,
    ⟨0x1d921, "SIGNWRITING MOVEMENT-", [
      "HINGE UP DOWN LARGE|HINGE UP DOWN SMALL|HINGE UP SEQUENTIAL|HINGE DOWN SEQUENTIAL",
      "HINGE UP DOWN ALTERNATING LARGE|HINGE UP DOWN ALTERNATING SMALL",
      "HINGE SIDE TO SIDE SCISSORS|WALLPLANE FINGER CONTACT|FLOORPLANE FINGER CONTACT"]⟩,
    ⟨0x1d92a, "SIGNWRITING MOVEMENT-WALLPLANE ", [
      "SINGLE STRAIGHT SMALL|SINGLE STRAIGHT MEDIUM|SINGLE STRAIGHT LARGE",
      "SINGLE STRAIGHT LARGEST|SINGLE WRIST FLEX|DOUBLE STRAIGHT|DOUBLE WRIST FLEX",
      "DOUBLE ALTERNATING|DOUBLE ALTERNATING WRIST FLEX|CROSS|TRIPLE STRAIGHT MOVEMENT",
      "TRIPLE WRIST FLEX|TRIPLE ALTERNATING|TRIPLE ALTERNATING WRIST FLEX|BEND SMALL|BEND MEDIUM",
      "BEND LARGE|CORNER SMALL|CORNER MEDIUM|CORNER LARGE|CORNER ROTATION|CHECK SMALL",
      "CHECK MEDIUM|CHECK LARGE|BOX SMALL|BOX MEDIUM|BOX LARGE|ZIGZAG SMALL|ZIGZAG MEDIUM",
      "ZIGZAG LARGE|PEAKS SMALL|PEAKS MEDIUM|PEAKS LARGE"]⟩,
    ⟨0x1d94b, "SIGNWRITING TRAVEL-WALLPLANE ", [
      "ROTATION-WALLPLANE SINGLE|ROTATION-WALLPLANE DOUBLE|ROTATION-WALLPLANE ALTERNATING",
      "ROTATION-FLOORPLANE SINGLE|ROTATION-FLOORPLANE DOUBLE|ROTATION-FLOORPLANE ALTERNATING",
      "SHAKING|ARM SPIRAL SINGLE|ARM SPIRAL DOUBLE|ARM SPIRAL TRIPLE"]⟩,
    ⟨0x1d955, "SIGNWRITING MOVEMENT-DIAGONAL ", [
      "AWAY SMALL|AWAY MEDIUM|AWAY LARGE|AWAY LARGEST|TOWARDS SMALL|TOWARDS MEDIUM|TOWARDS LARGE",
      "TOWARDS LARGEST|BETWEEN AWAY SMALL|BETWEEN AWAY MEDIUM|BETWEEN AWAY LARGE",
      "BETWEEN AWAY LARGEST|BETWEEN TOWARDS SMALL|BETWEEN TOWARDS MEDIUM|BETWEEN TOWARDS LARGE",
      "BETWEEN TOWARDS LARGEST"]⟩,
    ⟨0x1d965, "SIGNWRITING MOVEMENT-FLOORPLANE ", [
      "SINGLE STRAIGHT SMALL|SINGLE STRAIGHT MEDIUM|SINGLE STRAIGHT LARGE",
      "SINGLE STRAIGHT LARGEST|SINGLE WRIST FLEX|DOUBLE STRAIGHT|DOUBLE WRIST FLEX",
      "DOUBLE ALTERNATING|DOUBLE ALTERNATING WRIST FLEX|CROSS|TRIPLE STRAIGHT MOVEMENT",
      "TRIPLE WRIST FLEX|TRIPLE ALTERNATING MOVEMENT|TRIPLE ALTERNATING WRIST FLEX|BEND",
      "CORNER SMALL|CORNER MEDIUM|CORNER LARGE|CHECK|BOX SMALL|BOX MEDIUM|BOX LARGE|ZIGZAG SMALL",
      "ZIGZAG MEDIUM|ZIGZAG LARGE|PEAKS SMALL|PEAKS MEDIUM|PEAKS LARGE"]⟩,
    ⟨0x1d981, "SIGNWRITING TRAVEL-FLOORPLANE ", [
      "ROTATION-FLOORPLANE SINGLE|ROTATION-FLOORPLANE DOUBLE|ROTATION-FLOORPLANE ALTERNATING",
      "ROTATION-WALLPLANE SINGLE|ROTATION-WALLPLANE DOUBLE|ROTATION-WALLPLANE ALTERNATING",
      "SHAKING"]⟩,
    ⟨0x1d988, "SIGNWRITING MOVEMENT-WALLPLANE ", [
      "CURVE QUARTER SMALL|CURVE QUARTER MEDIUM|CURVE QUARTER LARGE|CURVE QUARTER LARGEST",
      "CURVE HALF-CIRCLE SMALL|CURVE HALF-CIRCLE MEDIUM|CURVE HALF-CIRCLE LARGE",
      "CURVE HALF-CIRCLE LARGEST|CURVE THREE-QUARTER CIRCLE SMALL",
      "CURVE THREE-QUARTER CIRCLE MEDIUM|HUMP SMALL|HUMP MEDIUM|HUMP LARGE|LOOP SMALL",
      "LOOP MEDIUM|LOOP LARGE|LOOP SMALL DOUBLE|WAVE CURVE DOUBLE SMALL|WAVE CURVE DOUBLE MEDIUM",
      "WAVE CURVE DOUBLE LARGE|WAVE CURVE TRIPLE SMALL|WAVE CURVE TRIPLE MEDIUM",
      "WAVE CURVE TRIPLE LARGE|CURVE THEN STRAIGHT|CURVED CROSS SMALL|CURVED CROSS MEDIUM"]⟩,
    ⟨0x1d9a2, "SIGNWRITING ", [
      "ROTATION-WALLPLANE SINGLE|ROTATION-WALLPLANE DOUBLE|ROTATION-WALLPLANE ALTERNATE",
      "MOVEMENT-WALLPLANE SHAKING|MOVEMENT-WALLPLANE CURVE HITTING FRONT WALL",
      "MOVEMENT-WALLPLANE HUMP HITTING FRONT WALL|MOVEMENT-WALLPLANE LOOP HITTING FRONT WALL",
      "MOVEMENT-WALLPLANE WAVE HITTING FRONT WALL|ROTATION-WALLPLANE SINGLE HITTING FRONT WALL",
      "ROTATION-WALLPLANE DOUBLE HITTING FRONT WALL",
      "ROTATION-WALLPLANE ALTERNATING HITTING FRONT WALL|MOVEMENT-WALLPLANE CURVE HITTING CHEST",
      "MOVEMENT-WALLPLANE HUMP HITTING CHEST|MOVEMENT-WALLPLANE LOOP HITTING CHEST",
      "MOVEMENT-WALLPLANE WAVE HITTING CHEST|ROTATION-WALLPLANE SINGLE HITTING CHEST",
      "ROTATION-WALLPLANE DOUBLE HITTING CHEST|ROTATION-WALLPLANE ALTERNATING HITTING CHEST"]⟩,
    ⟨0x1d9b4, "SIGNWRITING MOVEMENT-WALLPLANE WAVE DIAGONAL PATH ", ["SMALL|MEDIUM|LARGE"]⟩,
    ⟨0x1d9b7, "SIGNWRITING MOVEMENT-FLOORPLANE ", [
      "CURVE HITTING CEILING SMALL|CURVE HITTING CEILING LARGE|HUMP HITTING CEILING SMALL DOUBLE",
      "HUMP HITTING CEILING LARGE DOUBLE|HUMP HITTING CEILING SMALL TRIPLE",
      "HUMP HITTING CEILING LARGE TRIPLE|LOOP HITTING CEILING SMALL SINGLE",
      "LOOP HITTING CEILING LARGE SINGLE|LOOP HITTING CEILING SMALL DOUBLE",
      "LOOP HITTING CEILING LARGE DOUBLE|WAVE HITTING CEILING SMALL|WAVE HITTING CEILING LARGE"]⟩,
    ⟨0x1d9c3, "SIGNWRITING ROTATION-FLOORPLANE ", [
      "SINGLE HITTING CEILING|DOUBLE HITTING CEILING|ALTERNATING HITTING CEILING"]⟩,
    ⟨0x1d9c6, "SIGNWRITING MOVEMENT-FLOORPLANE ", [
      "CURVE HITTING FLOOR SMALL|CURVE HITTING FLOOR LARGE|HUMP HITTING FLOOR SMALL DOUBLE",
      "HUMP HITTING FLOOR LARGE DOUBLE|HUMP HITTING FLOOR TRIPLE SMALL TRIPLE",
      "HUMP HITTING FLOOR TRIPLE LARGE TRIPLE|LOOP HITTING FLOOR SMALL SINGLE",
      "LOOP HITTING FLOOR LARGE SINGLE|LOOP HITTING FLOOR SMALL DOUBLE",
      "LOOP HITTING FLOOR LARGE DOUBLE|WAVE HITTING FLOOR SMALL|WAVE HITTING FLOOR LARGE"]⟩,
    ⟨0x1d9d2, "SIGNWRITING ROTATION-FLOORPLANE ", [
      "SINGLE HITTING FLOOR|DOUBLE HITTING FLOOR|ALTERNATING HITTING FLOOR"]⟩,
    ⟨0x1d9d5, "SIGNWRITING MOVEMENT-FLOORPLANE ", [
      "CURVE SMALL|CURVE MEDIUM|CURVE LARGE|CURVE LARGEST|CURVE COMBINED|HUMP SMALL|LOOP SMALL",
      "WAVE SNAKE|WAVE SMALL|WAVE LARGE"]⟩,
    ⟨0x1d9df, "SIGNWRITING ", [
      "ROTATION-FLOORPLANE SINGLE|ROTATION-FLOORPLANE DOUBLE|ROTATION-FLOORPLANE ALTERNATING",
      "MOVEMENT-FLOORPLANE SHAKING PARALLEL"]⟩,
    ⟨0x1d9e3, "SIGNWRITING MOVEMENT-WALLPLANE ARM CIRCLE ", [
      "SMALL SINGLE|MEDIUM SINGLE|SMALL DOUBLE|MEDIUM DOUBLE"]⟩,
    ⟨0x1d9e7, "SIGNWRITING MOVEMENT-FLOORPLANE ARM CIRCLE HITTING WALL ", [
      "SMALL SINGLE|MEDIUM SINGLE|LARGE SINGLE|SMALL DOUBLE|MEDIUM DOUBLE|LARGE DOUBLE"]⟩,
    ⟨0x1d9ed, "SIGNWRITING MOVEMENT-", [
      "WALLPLANE WRIST CIRCLE FRONT SINGLE|WALLPLANE WRIST CIRCLE FRONT DOUBLE",
      "FLOORPLANE WRIST CIRCLE HITTING WALL SINGLE|FLOORPLANE WRIST CIRCLE HITTING WALL DOUBLE",
      "WALLPLANE FINGER CIRCLES SINGLE|WALLPLANE FINGER CIRCLES DOUBLE",
      "FLOORPLANE FINGER CIRCLES HITTING WALL SINGLE",
      "FLOORPLANE FINGER CIRCLES HITTING WALL DOUBLE"]⟩,
    ⟨0x1d9f5, "SIGNWRITING DYNAMIC ", [
      "ARROWHEAD SMALL|ARROWHEAD LARGE|FAST|SLOW|TENSE|RELAXED|SIMULTANEOUS",
      "SIMULTANEOUS ALTERNATING|EVERY OTHER TIME|GRADUAL"]⟩,
    ⟨0x1d9ff, "SIGNWRITING ", [
      "HEAD|HEAD RIM|HEAD MOVEMENT-WALLPLANE STRAIGHT|HEAD MOVEMENT-WALLPLANE TILT",
      "HEAD MOVEMENT-FLOORPLANE STRAIGHT|HEAD MOVEMENT-WALLPLANE CURVE",
      "HEAD MOVEMENT-FLOORPLANE CURVE|HEAD MOVEMENT CIRCLE",
      "FACE DIRECTION POSITION NOSE FORWARD TILTING|FACE DIRECTION POSITION NOSE UP OR DOWN",
      "FACE DIRECTION POSITION NOSE UP OR DOWN TILTING|EYEBROWS STRAIGHT UP",
      "EYEBROWS STRAIGHT NEUTRAL|EYEBROWS STRAIGHT DOWN|DREAMY EYEBROWS NEUTRAL DOWN",
      "DREAMY EYEBROWS DOWN NEUTRAL|DREAMY EYEBROWS UP NEUTRAL|DREAMY EYEBROWS NEUTRAL UP",
      "FOREHEAD NEUTRAL|FOREHEAD CONTACT|FOREHEAD WRINKLED|EYES OPEN|EYES SQUEEZED|EYES CLOSED",
      "EYE BLINK SINGLE|EYE BLINK MULTIPLE|EYES HALF OPEN|EYES WIDE OPEN|EYES HALF CLOSED",
      "EYES WIDENING MOVEMENT|EYE WINK|EYELASHES UP|EYELASHES DOWN|EYELASHES FLUTTERING",
      "EYEGAZE-WALLPLANE STRAIGHT|EYEGAZE-WALLPLANE STRAIGHT DOUBLE",
      "EYEGAZE-WALLPLANE STRAIGHT ALTERNATING|EYEGAZE-FLOORPLANE STRAIGHT",
      "EYEGAZE-FLOORPLANE STRAIGHT DOUBLE|EYEGAZE-FLOORPLANE STRAIGHT ALTERNATING",
      "EYEGAZE-WALLPLANE CURVED|EYEGAZE-FLOORPLANE CURVED|EYEGAZE-WALLPLANE CIRCLING",
      "CHEEKS PUFFED|CHEEKS NEUTRAL|CHEEKS SUCKED|TENSE CHEEKS HIGH|TENSE CHEEKS MIDDLE",
      "TENSE CHEEKS LOW|EARS|NOSE NEUTRAL|NOSE CONTACT|NOSE WRINKLES|NOSE WIGGLES",
      "AIR BLOWING OUT|AIR SUCKING IN|AIR BLOW SMALL ROTATIONS|AIR SUCK SMALL ROTATIONS",
      "BREATH INHALE|BREATH EXHALE"]⟩,
    ⟨0x1da3b, "SIGNWRITING MOUTH ", [
      "CLOSED NEUTRAL|CLOSED FORWARD|CLOSED CONTACT|SMILE|SMILE WRINKLED|SMILE OPEN|FROWN",
      "FROWN WRINKLED|FROWN OPEN|OPEN CIRCLE|OPEN FORWARD|OPEN WRINKLED|OPEN OVAL",
      "OPEN OVAL WRINKLED|OPEN OVAL YAWN|OPEN RECTANGLE|OPEN RECTANGLE WRINKLED",
      "OPEN RECTANGLE YAWN|KISS|KISS FORWARD|KISS WRINKLED|TENSE|TENSE FORWARD|TENSE SUCKED"]⟩,
    ⟨0x1da53, "SIGNWRITING ", [
      "LIPS PRESSED TOGETHER|LIP LOWER OVER UPPER|LIP UPPER OVER LOWER|MOUTH CORNERS",
      "MOUTH WRINKLES SINGLE|MOUTH WRINKLES DOUBLE|TONGUE STICKING OUT FAR|TONGUE LICKING LIPS",
      "TONGUE TIP BETWEEN LIPS|TONGUE TIP TOUCHING INSIDE MOUTH|TONGUE INSIDE MOUTH RELAXED",
      "TONGUE MOVES AGAINST CHEEK|TONGUE CENTRE STICKING OUT|TONGUE CENTRE INSIDE MOUTH|TEETH",
      "TEETH MOVEMENT|TEETH ON TONGUE|TEETH ON TONGUE MOVEMENT|TEETH ON LIPS",
      "TEETH ON LIPS MOVEMENT|TEETH BITE LIPS|MOVEMENT-WALLPLANE JAW|MOVEMENT-FLOORPLANE JAW",
      "NECK|HAIR|EXCITEMENT|SHOULDER HIP SPINE|SHOULDER HIP POSITIONS",
      "WALLPLANE SHOULDER HIP MOVE|FLOORPLANE SHOULDER HIP MOVE|SHOULDER TILTING FROM WAIST",
      "TORSO-WALLPLANE STRAIGHT STRETCH|TORSO-WALLPLANE CURVED BEND|TORSO-FLOORPLANE TWISTING",
      "UPPER BODY TILTING FROM HIP JOINTS|LIMB COMBINATION|LIMB LENGTH-1|LIMB LENGTH-2",
      "LIMB LENGTH-3|LIMB LENGTH-4|LIMB LENGTH-5|LIMB LENGTH-6|LIMB LENGTH-7|FINGER",
      "LOCATION-WALLPLANE SPACE|LOCATION-FLOORPLANE SPACE|LOCATION HEIGHT|LOCATION WIDTH",
      "LOCATION DEPTH|LOCATION HEAD NECK|LOCATION TORSO|LOCATION LIMBS DIGITS|COMMA|FULL STOP",
      "SEMICOLON|COLON|PARENTHESIS"]⟩,
    ⟨0x1da9b, "SIGNWRITING FILL MODIFIER-", ["2|3|4|5|6"]⟩,
    ⟨0x1daa1, "SIGNWRITING ROTATION MODIFIER-", ["2|3|4|5|6|7|8|9|10|11|12|13|14|15|16"]⟩,
    ⟨0x1df00, "LATIN ", [
      "SMALL LETTER FENG DIGRAPH WITH TRILL|SMALL LETTER REVERSED SCRIPT G",
      "LETTER SMALL CAPITAL TURNED G|SMALL LETTER REVERSED K|LETTER SMALL CAPITAL L WITH BELT",
      "SMALL LETTER LEZH WITH RETROFLEX HOOK|SMALL LETTER TURNED Y WITH BELT",
      "SMALL LETTER REVERSED ENG|SMALL LETTER TURNED R WITH LONG LEG AND RETROFLEX HOOK",
      "SMALL LETTER T WITH HOOK AND RETROFLEX HOOK|LETTER RETROFLEX CLICK WITH RETROFLEX HOOK",
      "SMALL LETTER ESH WITH DOUBLE BAR|SMALL LETTER ESH WITH DOUBLE BAR AND CURL",
      "SMALL LETTER TURNED T WITH CURL|LETTER INVERTED GLOTTAL STOP WITH CURL",
      "LETTER STRETCHED C WITH CURL|LETTER SMALL CAPITAL TURNED K"]⟩,
    ⟨0x1df11, "LATIN SMALL LETTER ", [
      "L WITH FISHHOOK|DEZH DIGRAPH WITH PALATAL HOOK|L WITH BELT AND PALATAL HOOK",
      "ENG WITH PALATAL HOOK|TURNED R WITH PALATAL HOOK|R WITH FISHHOOK AND PALATAL HOOK",
      "TESH DIGRAPH WITH PALATAL HOOK|EZH WITH PALATAL HOOK|DEZH DIGRAPH WITH RETROFLEX HOOK",
      "I WITH STROKE AND RETROFLEX HOOK|O WITH RETROFLEX HOOK|TESH DIGRAPH WITH RETROFLEX HOOK",
      "C WITH RETROFLEX HOOK|S WITH CURL"]⟩]

end TreeSchema.Text
