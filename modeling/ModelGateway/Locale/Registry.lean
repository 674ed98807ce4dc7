import ModelGateway.Text.Bytes

namespace ModelGateway.Locale

def words (lines : List String) : List Bytes :=
  lines.flatMap fun line => Bytes.splitOn 0x20 (utf8 line)

def languages : List Bytes :=
  words [
    "aa ab ae af ak am an ar as av ay az ba be bg bh bi bm bn bo br bs ca ce",
    "ch co cr cs cu cv cy da de dv dz ee el en eo es et eu fa ff fi fj fo fr",
    "fy ga gd gl gn gu gv ha he hi ho hr ht hu hy hz ia id ie ig ii ik in io",
    "is it iu iw ja ji jv jw ka kg ki kj kk kl km kn ko kr ks ku kv kw ky la",
    "lb lg li ln lo lt lu lv mg mh mi mk ml mn mo mr ms mt my na nb nd ne ng",
    "nl nn no nr nv ny oc oj om or os pa pi pl ps pt qu rm rn ro ru rw sa sc",
    "sd se sg sh si sk sl sm sn so sq sr ss st su sv sw ta te tg th ti tk tl",
    "tn to tr ts tt tw ty ug uk ur uz ve vi vo wa wo xh yi yo za zh zu"]

def scripts : List Bytes :=
  words [
    "adlm afak aghb ahom arab aran armi armn avst bali bamu bass batk beng",
    "bhks blis bopo brah brai bugi buhd cakm cans cari cham cher chrs cirt",
    "copt cpmn cprt cyrl cyrs deva diak dogr dsrt dupl egyd egyh egyp elba",
    "elym ethi geok geor glag gong gonm goth gran grek gujr guru hanb hang",
    "hani hano hans hant hatr hebr hira hluw hmng hmnp hrkt hung inds ital",
    "jamo java jpan jurc kali kana khar khmr khoj kitl kits knda kore kpel",
    "kthi lana laoo latf latg latn leke lepc limb lina linb lisu loma lyci",
    "lydi mahj maka mand mani marc maya medf mend merc mero mlym modi mong",
    "moon mroo mtei mult mymr nand narb nbat newa nkdb nkgb nkoo nshu ogam",
    "olck orkh orya osge osma palm pauc perm phag phli phlp phlv phnx piqd",
    "plrd prti qaaa qaab qaac qaad qaae qaaf qaag qaah qaai qaaj qaak qaal",
    "qaam qaan qaao qaap qaaq qaar qaas qaat qaau qaav qaaw qaax qaay qaaz",
    "qaba qabb qabc qabd qabe qabf qabg qabh qabi qabj qabk qabl qabm qabn",
    "qabo qabp qabq qabr qabs qabt qabu qabv qabw qabx rjng rohg roro runr",
    "samr sara sarb saur sgnw shaw shrd shui sidd sind sinh sogd sogo sora",
    "soyo sund sylo syrc syre syrj syrn tagb takr tale talu taml tang tavt",
    "telu teng tfng tglg thaa thai tibt tirh toto ugar vaii visp wara wcho",
    "wole xpeo xsux yezi yiii zanb zinh zmth zsye zsym zxxx zyyy zzzz"]

def regions : List Bytes :=
  words [
    "aa ac ad ae af ag ai al am an ao aq ar as at au aw ax az ba bb bd be bf",
    "bg bh bi bj bl bm bn bo bq br bs bt bu bv bw by bz ca cc cd cf cg ch ci",
    "ck cl cm cn co cp cq cr cs ct cu cv cw cx cy cz dd de dg dj dk dm do dy",
    "dz ea ec ee eg eh er es et eu ez fi fj fk fm fo fq fr fx ga gb gd ge gf",
    "gg gh gi gl gm gn gp gq gr gs gt gu gw gy hk hm hn hr ht hu hv ic id ie",
    "il im in io iq ir is it je jm jo jp jt ke kg kh ki km kn kp kr kw ky kz",
    "la lb lc li lk lr ls lt lu lv ly ma mc md me mf mg mh mi mk ml mm mn mo",
    "mp mq mr ms mt mu mv mw mx my mz na nc ne nf ng nh ni nl no np nq nr nt",
    "nu nz om pa pc pe pf pg ph pk pl pm pn pr ps pt pu pw py pz qa qm qn qo",
    "qp qq qr qs qt qu qv qw qx qy qz re rh ro rs ru rw sa sb sc sd se sg sh",
    "si sj sk sl sm sn so sr ss st su sv sx sy sz ta tc td tf tg th tj tk tl",
    "tm tn to tp tr tt tv tw tz ua ug uk um un us uy uz va vc vd ve vg vi vn",
    "vu wf wk ws xa xb xc xd xe xf xg xh xi xj xk xl xm xn xo xp xq xr xs xt",
    "xu xv xw xx xy xz yd ye yt yu za zm zr zw zz"]

def longRegions : List Bytes :=
  words [
    "abw afg ago aia ala alb and are arg arm asm ata atf atg aus aut aze bdi",
    "bel ben bes bfa bgd bgr bhr bhs bih blm blr blz bmu bol bra brb brn btn",
    "bvt bwa caf can cck che chl chn civ cmr cod cog cok col com cpv cri cub",
    "cuw cxr cym cyp cze deu dji dma dnk dom dza ecu egy eri esh esp est eth",
    "fin fji flk fra fro fsm gab gbr geo ggy gha gib gin glp gmb gnb gnq grc",
    "grd grl gtm guf gum guy hkg hmd hnd hrv hti hun idn imn ind iot irl irn",
    "irq isl isr ita jam jey jor jpn kaz ken kgz khm kir kna kor kwt lao lbn",
    "lbr lby lca lie lka lso ltu lux lva mac maf mar mco mda mdg mdv mex mhl",
    "mkd mli mlt mmr mne mng mnp moz mrt msr mtq mus mwi mys myt nam ncl ner",
    "nfk nga nic niu nld nor npl nru nzl omn pak pan pcn per phl plw png pol",
    "pri prk prt pry pse pyf qat reu rou rus rwa sau sdn sen sgp sgs shn sjm",
    "slb sle slv smr som spm srb ssd stp sur svk svn swe swz sxm syc syr tca",
    "tcd tgo tha tjk tkl tkm tls ton tto tun tur tuv twn tza uga ukr umi ury",
    "usa uzb vat vct ven vgb vir vnm vut wlf wsm yem zaf zmb zwe"]

def regionNumbers : List Bytes :=
  words [
    "001 002 003 004 005 008 009 010 011 012 013 014 015 016 017 018 019 020",
    "021 024 028 029 030 031 032 034 035 036 039 040 044 048 050 051 052 053",
    "054 056 057 060 061 064 068 070 072 074 076 084 086 090 092 096 100 104",
    "108 112 116 120 124 132 136 140 142 143 144 145 148 150 151 152 154 155",
    "156 158 162 166 170 174 175 178 180 184 188 191 192 196 200 202 203 204",
    "208 212 214 218 222 226 230 231 232 233 234 238 239 242 246 248 249 250",
    "254 258 260 262 266 268 270 275 276 278 280 288 292 296 300 304 308 312",
    "316 320 324 328 332 334 336 340 344 348 352 356 360 364 368 372 376 380",
    "384 388 392 398 400 404 408 410 414 417 418 419 422 426 428 430 434 438",
    "440 442 446 450 454 458 462 466 470 474 478 480 484 492 496 498 499 500",
    "504 508 512 516 520 524 528 530 531 533 534 535 540 548 554 558 562 566",
    "570 574 578 580 581 583 584 585 586 591 598 600 604 608 612 616 620 624",
    "626 630 634 638 642 643 646 652 654 659 660 662 663 666 670 674 678 682",
    "686 688 690 694 702 703 704 705 706 710 716 720 724 728 729 732 736 740",
    "744 748 752 756 760 762 764 768 772 776 780 784 788 792 795 796 798 800",
    "804 807 810 818 826 830 831 832 833 834 840 850 854 858 860 862 876 882",
    "886 887 890 891 894"]

def variants : List Bytes :=
  words [
    "1606nict 1694acad 1901 1959acad 1994 1996 abl1943 akuapem alalc97 aluku",
    "anpezo ao1990 aranes arevela arevmda arkaika asante auvern baku1926",
    "balanka barla basiceng bauddha bciav bcizbl biscayan biske blasl bohoric",
    "boont bornholm cisaup colb1945 cornu creiss dajnko ekavsk emodeng fascia",
    "fodom fonipa fonkirsh fonnapa fonupa fonxsamp gallo gascon gherd grclass",
    "grital grmistr hepburn heploc hognorsk hsistemo ijekavsk itihasa",
    "ivanchov jauer jyutping kkcor kleinsch kociewie kscor laukika leidentr",
    "lemosin lengadoc lipaw ltg1929 ltg2007 luna1918 mdcegyp mdctrans metelko",
    "monoton ndyuka nedis newfound nicard njiva nulik osojs oxendict pahawh2",
    "pahawh3 pahawh4 pamaka peano pehoeji petr1708 pinyin polyton provenc",
    "puter rigik rozaj rumgr scotland scouse simple solba sotav spanglis",
    "surmiran sursilv sutsilv synnejyl tailo tarask tongyong tunumiir uccor",
    "ucrcor ulster unifon vaidika valbadia valencia vallader vecdruka",
    "viennese vivarau wadegile xsistemo"]

def frenchLanguages : List Bytes :=
  words [
    "br co fr ht kg ln mg oc rw wo bre cos crs fra fre hat kin kon lin lua",
    "mlg oci wol"]

def frenchRegions : List Bytes :=
  words [
    "bf bj bl cf cg ci cm dy fr fx ga gf gn gp ht hv lu mc mf mg mq nc pf pm",
    "re rw sc sn td tf tg wf yt bfa ben blm caf cog civ cmr fra gab guf gin",
    "glp hti lux mco maf mdg mtq ncl pyf spm reu rwa syc sen tcd atf tgo wlf",
    "myt 120 140 148 175 178 204 249 250 254 258 260 266 312 324 332 384 442",
    "450 474 492 540 638 646 652 663 666 686 690 768 854 876"]

end ModelGateway.Locale
