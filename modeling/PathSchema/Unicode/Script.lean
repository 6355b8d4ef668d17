import PathSchema.Unicode.Table

/-!
# Scripts

Every code point has one script, and a set of scripts it is used with; for most
code points the set holds just the script.  A script is given by its place in
`names`, which lists the names of each in small letters.
-/

namespace PathSchema

namespace Unicode

namespace Script

def names : Array (List String) :=
  #[["adlm", "adlam"],
    ["ahom"],
    ["hluw", "anatolianhieroglyphs"],
    ["arab", "arabic"],
    ["armn", "armenian"],
    ["avst", "avestan"],
    ["bali", "balinese"],
    ["bamu", "bamum"],
    ["bass", "bassavah"],
    ["batk", "batak"],
    ["beng", "bengali"],
    ["bhks", "bhaiksuki"],
    ["bopo", "bopomofo"],
    ["brah", "brahmi"],
    ["brai", "braille"],
    ["bugi", "buginese"],
    ["buhd", "buhid"],
    ["cans", "canadianaboriginal"],
    ["cari", "carian"],
    ["aghb", "caucasianalbanian"],
    ["cakm", "chakma"],
    ["cham"],
    ["cher", "cherokee"],
    ["chrs", "chorasmian"],
    ["zyyy", "common"],
    ["copt", "coptic", "qaac"],
    ["xsux", "cuneiform"],
    ["cprt", "cypriot"],
    ["cpmn", "cyprominoan"],
    ["cyrl", "cyrillic"],
    ["dsrt", "deseret"],
    ["deva", "devanagari"],
    ["diak", "divesakuru"],
    ["dogr", "dogra"],
    ["dupl", "duployan"],
    ["egyp", "egyptianhieroglyphs"],
    ["elba", "elbasan"],
    ["elym", "elymaic"],
    ["ethi", "ethiopic"],
    ["geor", "georgian"],
    ["glag", "glagolitic"],
    ["goth", "gothic"],
    ["gran", "grantha"],
    ["grek", "greek"],
    ["gujr", "gujarati"],
    ["gong", "gunjalagondi"],
    ["guru", "gurmukhi"],
    ["hani", "han"],
    ["hang", "hangul"],
    ["rohg", "hanifirohingya"],
    ["hano", "hanunoo"],
    ["hatr", "hatran"],
    ["hebr", "hebrew"],
    ["hira", "hiragana"],
    [],
    ["armi", "imperialaramaic"],
    ["zinh", "inherited", "qaai"],
    ["phli", "inscriptionalpahlavi"],
    ["prti", "inscriptionalparthian"],
    ["java", "javanese"],
    ["kthi", "kaithi"],
    ["knda", "kannada"],
    ["kana", "katakana"],
    ["kawi"],
    ["kali", "kayahli"],
    ["khar", "kharoshthi"],
    ["kits", "khitansmallscript"],
    ["khmr", "khmer"],
    ["khoj", "khojki"],
    ["sind", "khudawadi"],
    ["laoo", "lao"],
    ["latn", "latin"],
    ["lepc", "lepcha"],
    ["limb", "limbu"],
    ["lina", "lineara"],
    ["linb", "linearb"],
    ["lisu"],
    ["lyci", "lycian"],
    ["lydi", "lydian"],
    ["mahj", "mahajani"],
    ["maka", "makasar"],
    ["mlym", "malayalam"],
    ["mand", "mandaic"],
    ["mani", "manichaean"],
    ["marc", "marchen"],
    ["gonm", "masaramgondi"],
    ["medf", "medefaidrin"],
    ["mtei", "meeteimayek"],
    ["mend", "mendekikakui"],
    ["merc", "meroiticcursive"],
    ["mero", "meroitichieroglyphs"],
    ["plrd", "miao"],
    ["modi"],
    ["mong", "mongolian"],
    ["mroo", "mro"],
    ["mult", "multani"],
    ["mymr", "myanmar"],
    ["nbat", "nabataean"],
    ["nagm", "nagmundari"],
    ["nand", "nandinagari"],
    ["talu", "newtailue"],
    ["newa"],
    ["nkoo", "nko"],
    ["nshu", "nushu"],
    ["hmnp", "nyiakengpuachuehmong"],
    ["ogam", "ogham"],
    ["olck", "olchiki"],
    ["hung", "oldhungarian"],
    ["ital", "olditalic"],
    ["narb", "oldnortharabian"],
    ["perm", "oldpermic"],
    ["xpeo", "oldpersian"],
    ["sogo", "oldsogdian"],
    ["sarb", "oldsoutharabian"],
    ["orkh", "oldturkic"],
    ["ougr", "olduyghur"],
    ["orya", "oriya"],
    ["osge", "osage"],
    ["osma", "osmanya"],
    ["hmng", "pahawhhmong"],
    ["palm", "palmyrene"],
    ["pauc", "paucinhau"],
    ["phag", "phagspa"],
    ["phnx", "phoenician"],
    ["phlp", "psalterpahlavi"],
    ["rjng", "rejang"],
    ["runr", "runic"],
    ["samr", "samaritan"],
    ["saur", "saurashtra"],
    ["shrd", "sharada"],
    ["shaw", "shavian"],
    ["sidd", "siddham"],
    ["sgnw", "signwriting"],
    ["sinh", "sinhala"],
    ["sogd", "sogdian"],
    ["sora", "sorasompeng"],
    ["soyo", "soyombo"],
    ["sund", "sundanese"],
    ["sylo", "sylotinagri"],
    ["syrc", "syriac"],
    ["tglg", "tagalog"],
    ["tagb", "tagbanwa"],
    ["tale", "taile"],
    ["lana", "taitham"],
    ["tavt", "taiviet"],
    ["takr", "takri"],
    ["taml", "tamil"],
    ["tnsa", "tangsa"],
    ["tang", "tangut"],
    ["telu", "telugu"],
    ["thaa", "thaana"],
    ["thai"],
    ["tibt", "tibetan"],
    ["tfng", "tifinagh"],
    ["tirh", "tirhuta"],
    ["toto"],
    ["ugar", "ugaritic"],
    ["zzzz", "unknown"],
    ["vaii", "vai"],
    ["vith", "vithkuqi"],
    ["wcho", "wancho"],
    ["wara", "warangciti"],
    ["yezi", "yezidi"],
    ["yiii", "yi"],
    ["zanb", "zanabazarsquare"]]

def named? (name : String) : Option Nat :=
  names.findIdx? (·.contains name)

/-- The scripts of all code points. -/
def table : Table := runs <|
    "CnyBaCtgyBaCtBvybCtpybCtfyxCtbyBfCtbyRhCtBnyfCtfycmuyEiCeeBrbydBrcGbeBrbybBreGbbBrbybBrbydBrbGbb" ++
    "BrbGbuBrbGbClBrozqBrFdBdcCeGnBdbGbBmecGbByecGbdebGbCdCaiGbBbCaeGbgCalGbfdbygdbyodbyddbyBgdbykdlC" ++
    "eBadbCeEedbyBidoFjbGbCiFjcGbdFjBwdByFuoGbChDycGbdDyBuExcGbpExbGbBcDecGbbDebGblFjfGbBfdbGbcdgGbCw" ++
    "dbyBddDdBfeCepBfcyBaBfekbGbikcGbckcGbwkbGbhkbGbbkdGbekcGbjkcGbckcGbekiGbbkeGbckbGbfkcGbzkcGbdBub" ++
    "GbgBueGbcBucGbwBubGbhBubGbcBubGbcBubGbcBucGbbBubGbfBueGbcBucGbdBudGbbBuhGbeBubGbbBuhGbrBukGbdBsb" ++
    "GbjBsbGbdBsbGbwBsbGbhBsbGbcBsbGbfBscGbkBsbGbdBsbGbdBscGbbBspGbeBscGbmBshGbhBsbGbdEmbGbiEmcGbcEmc" ++
    "GbwEmbGbhEmbGbcEmbGbfEmcGbjEmcGbcEmcGbdEmhGbdEmeGbcEmbGbfEmcGbsEmkGbcFqbGbgFqdGbdFqbGbeFqdGbcFqb" ++
    "GbbFqbGbcFqdGbcFqdGbdFqdGbmFqeGbfFqdGbdFqbGbeFqcGbbFqgGbbFqoGbvFqfGbnFtbGbdFtbGbxFtbGbqFtcGbjFtb" ++
    "GbdFtbGbeFthGbcFtbGbdFtcGbbFtcGbeFtcGbkFthGbjFtnCjbGbdCjbGbxCjbGbkCjbGbfCjcGbjCjbGbdCjbGbeCjhGbc" ++
    "CjgGbcCjbGbeCjcGbkCjbGbdCjmGbnDdbGbdDdbGbBzDdbGbdDdbGbgDdeGbqDdcGbBaDdbGbdFdbGbsFddGbyFdbGbjFdbG" ++
    "bbFdcGbhFddGbbFdeGbgFdbGbbFdbGbiFdgGbkFdcGbdFdmGbCgFveGbbyBcFvBlGbcCsbGbbCsbGbfCsbGbyCsbGbbCsbGb" ++
    "xCscGbfCsbGbbCsbGbhCsbGbkCscGbeCsBgGbCuFwbGbBkFweGbBnFwbGbBkFwbGbpFwbGbhFweycFwBlGbGeDsBmBnbGbbB" ++
    "nfGbbBncGbBrBnbyeBnJwBwCvBmbGbeBmcGbhBmbGbbBmbGbeBmcGbBpBmbGbeBmcGbBhBmbGbeBmcGbhBmbGbbBmbGbeBmc" ++
    "GbpBmbGbCfBmbGbeBmcGbCpBmcGbBgBmdGbBaBmgGbDiwcGbgwcGbYqrBdEbdGbCxEwdylEwhGbwFkjGbbFkvBycyjGbuqmG" ++
    "bnFlbGbdFlbGbcFlmGbDqCpcGbkCpgGbkCpgGbcDpcybDpbyuDpgGbDlDphGbBrDpfGbCsrkGbBfCvbGbmCveGbmCveGbbCv" ++
    "dGbmCvBeFmcGbfFmlGbBsDweGbBaDwgGblDwdGbcDwBgCpBcpcGbcpClFnbGbBdFncGblFngGbkFngGboFncGbBfCeBxGbCz" ++
    "gdGbBvgbGbCmFhCajiGbejCeCudGbpCudGbdCuBwEcjBdhGbBrBncGbdBniFhiGbdCebynCebyhCeeybCegybCedycCebyfG" ++
    "bBmCtfBrbBdBxCtfBreCtfBrnCtbBdCsCtbBrCmCeJwCtwBrcGbgBrcGbBmBrcGbgBrcGbiBrbGbbBrbGbbBrbGbbBrbGbBf" ++
    "BrcGbCbBrbGbpBrbGboBrcGbgBrbGbtBrcGbdBrbGbjBrbGbmycCeDjybGblybCtcGblybCtpybGbnCtdGbBhypGbBhCepGb" ++
    "BmybBrdycCtgybCtBbybCtryBpCtdyeGbZnyzGblyvGbBJsyJwoYeycGbBgybGbEbyDsBoBgCtEmzfGbhzBmBnbGbbBnfGbb" ++
    "BncGbCeFxhGbcFxoGbbFxxBmjGbhBmbGbhBmbGbhBmbGbhBmbGbhBmbGbhBmbGbhBmbGbhBmbGbBgBdDqyBiGbBaBvbGbDlB" ++
    "vmGbIgBvBaGbmyeGbfybBvbybBvzyjBveCecBwiyeBveybGbDiCbcGbcCecydCbbyDmCkcydCkfGbBrmbGbDqBwbGbqyBgmB" ++
    "kymGbqCkBfBwbGbCmyBfBwDdyBvCkbyDkCkGmyJToBvCmyBFBkBvBSvGhdGbCdGhjGbBwCyLoGcuGbDsBdDkhiGbBiyDyCtd" ++
    "yCmCtfGbcCtbGbbCtbGbfCtyGboCtBtFidGbkygGbCeEsiGbCsEyiGbmEygGbBgBfBuCmbybCmBkEvlGbbEvBdBwdGbDaChb" ++
    "GbbykCheGbcChBfDsbGbCdvjGbovcGbkvcGbevBgDsCpFoyGbfFoxDjkGbgBmcGbgBmcGbgBmjGbhBmbGbhBmbGbBrCtbyjC" ++
    "tbBreCtcyeGbDcwBuDjcGbkDjgGbQNsBwmGbxBweGbBxBwMNcGbOcBvcGbEcBvBmGbhCtmGbfefGbBaCabGbfCabGbbCabGb" ++
    "cCabGbcCabGbkCaEldqGbNzdcyDcdcGbCcdhGbbdBgGbqdqCekygGboCecBdBjybGbtybGbeyeGbfdbGbFfdcGbbybGbBgyB" ++
    "aCtgyBaCtlykCkbyBtCkcyBfBwdGbgBwcGbgBwcGbgBwcGbdBwdGbhybGbhykGbfycGbmCxbGbBaCxbGbtCxbGbcCxbGbpCx" ++
    "cGboCxBiGbEtCxfGbdyeGbBtydGbjyDbBrbGbnydGbbBrBvGbBtybCeFaGbBdCzdGbBxspGbbCeBbyeGbBkEejGbdEeBbBpf" ++
    "GbBrEgfGbBeGabGbbGaBkEheGboEhBqGbDcBeBwFaBeEocGbkEogGbBkEneGbBkEneGbBoBkiGbCatlGbbtlGdbGbpGdbGbh" ++
    "GdbGbcGdbGblGdbGbpGdbGbhGdbGbcGdCpGbLzCwjGbwCwkGbiCwyGbgCtbGbBqCtbGbjCtCrGbgBbcGbbBbbGbBsBbbGbcB" ++
    "bdGbbBbcGbbBbwCdbGbjCdBgEqBfDtiGbjDtBwGbtBzbGbcBzfGbfBzBcEtdGbbEtBaDafGbbDaCmGbBgDmyDleGbuDlcGbB" ++
    "uDleCnbGbcCnfGbiCnbGbdCnbGbBdCncGbdCneGbkCnhGbjCnhGbBgEjBgEfBgGbBnDfeGbmDfjGbCcfdGbhfwCgcGbiCgtC" ++
    "ffGbiCfsEuhGbeEumGbhEuDcGbCvEkCdGbBzEdnGbBzEdhGbgEdBoBxiGbkBxLiGbBfdbGbBqGgbGbdGgcGbcGgCxGbddBoE" ++
    "iiGbBqFewGbBaElBmGbBcxuGbxBljGbDaneGbBknjGbbnCpCikGbbCicGbzFfhGbkFfgGbCbubGbsuiGbBnDbjGbDsEzbGbu" ++
    "FdlGbsCqbGbBvCqCkGbhDrbGbbDrbGbeDrbGbpDrbGblDrgGbChCrfGbkCrgGbeBqbGbiBqcGbcBqcGbwBqbGbhBqbGbcBqb" ++
    "GbfBqbGbbCejBqcGbcBqcGbdBqcGbbBqgGbbBqfGbhBqcGbhBqdGbfBqFjGbDoDxbGbfDxBeGbCuFyiGbkFyGkGbCcFbcGbB" ++
    "mFbBiGbCrDolGbkDogGbnDptGbCgFpgGbkFpCcGbBbbcGbpbeGbxbHdGbCiBhDwGbDfGfmGbbGfhBgcGbbBgcGbiBgbGbcBg" ++
    "bGbBeBgbGbcBgcGbmBgjGbkBgCsGbiDvcGbBuDvcGblDvBbGbCuGiiGbDfFgnGbqrCfErhGbkBfJmGbjlbGbBtlbGbolkGbB" ++
    "dldGbBgDgcGbwDgbGboDgCvGbhDhbGbcDhbGbBsDhdGbbDhbGbcDhbGbjDhiGbkDhgGbgBtbGbcBtbGbBlBtbGbcBtbGbgBt" ++
    "hGbkBtLyGbzDchGbrClbGbBpCldGbBcClDiGbbCypGbByFqnGbbFqBJmBaDyGbEhBabGbfBalGbHoBaDXkGbDvBcnGbBQsBj" ++
    "FYgGbWlcMUbGbVxhhGbBfDqbGbkDqeGbcDqDbFrbGbkFrgGbBeicGbgikGbCsEpkGbkEpbGbhEpbGbvEpfGbtEpBAmGbDnDi" ++
    "DxGbCxDneGbCfDnhGbrDnCmGbbFsbDzcBvbColGbcBvoGbJCaFsiGbBDoFsScCoBqGbjFsNFrGbeCkbGbhCkbGbcCkbGbbCk" ++
    "LbCbdCkpGbbCbBdGbdCbcGbbCkoGbeCkiGbPgDzDKuGbEdBifGbnBidGbjBihGbkBicGbeBieyGYuGbBuCecGbxCejGbEmyC" ++
    "iGbJmykGbBnycGbCkydCeryiCecyhCeBeyeCeCjyvGbCsBrEsGbuymGbuymGbDjyjGbzyFfGbDhybGbCtybGbcycGbbycGbc" ++
    "ycGbeybGbmybGbbybGbhybGbCnybGbeycGbiybGbhybGbBcybGbeybGbfybGbbydGbhybGbNcycGbLgycGbByyZcFcpGbfFc" ++
    "bGbpFcBQmGbBfCtgGbgCtIfGbhBobGbrBocGbhBobGbcBobGbfBofGbCkBdBhGbbBdEiGbBtEadGboEacGbkEaeGbcEaMiGb" ++
    "BfFzrGbCgGefGbbGeRwGbBqDuBCoGbhBmbGbeBmbGbcBmbGbpBmbGbHpDkcGbqDkBpGbCyaeGbkaeGbcaBEfGbCqyCyGbCjy" ++
    "HmGbedbGbBbdbGbcdbGbbdcGbbdbGbkdbGbedbGbbdbGbbdgGbbdeGbbdbGbbdbGbbdbGbddbGbcdbGbbdcGbbdbGbbdbGbb" ++
    "dbGbbdbGbbdbGbcdbGbbdcGbedbGbhdbGbedbGbedbGbbdbGbkdbGbrdfGbddbGbfdbGbrdCaGbcdKkGbBsyeGbDwymGbpyc" ++
    "GbpybGbpybGbBlykGbGsyCeGbBaybCbcynGbBsyeGbjyhGbcyoGbgyFyGbBLwyeGbrydGbnydGbEpyeGbDrygGbmyeGbbypG" ++
    "bmyeGbCeyiGbkygGbBoyiGbBeycGbcyDaGbNcymGboycGbnydGbjyhGbBuybGbhyiGboyeGbjyhGbjyhGbFrybGbCdyBlGbk" ++
    "yBNqGbCLFcBvBgGbGDuBvgGbIoBvcGbINqBvoGbLBlBvEPjGbUwBvCFyGbHHzBvfGbGFgBvBOMXlGbbyBeGbDsyEyGbJgCeL" ++
    "ECuGbaGb"

/-- The sets of scripts that some code point is used with. -/
def usage : Array (List Nat) :=
  let rec go : Nat → List Nat → List (List Nat)
    | _, [] => []
    | 0, _ => []
    | fuel + 1, size :: rest => rest.take size :: go fuel (rest.drop size)
  let packed := numbers <|
    "bybCtbmbCebBrbGbbzbBdcBdEgcBdBocBdCtbebCabdgdBxDyFjFuGgddFjFuhadBxDyFjFuGgjadBxDeDfElEuFeFjcdFjd" ++
    "dFuGgcdBxbFjbFubDybExbDebBfnkBfBqBsBuCjCtDdEmEzFqFtFymkBfBqBsBuCjCtDdEmFqFtFyukBfBhBqBsBtBuCjCrD" ++
    "bDdDhDvEmFdFiFpFqFtFyvkBfBhBqBsBtBuCjCrCvDbDdDhDvEmFdFiFpFqFtFyeBfBhCiDbbkdkuFibBucBuDrbBscBsCqb" ++
    "EmbFqcBqFqbFtbCjcCjDvbDdbFdbFvbCsbFwbDsduDsFmbBncBnCtbBwbBmbwbrbEbbEwbFkbByeqByFkFlbqbFlbCpbDpcD" ++
    "pEsbCvbFmbDwbpbFnbgbFhbjbCubEcekBfBqCjcBfBqckBfcBfEzgBfCjDdEmFqFtcBfDvikBfBqCjDvEmFtFydBfBqCjbDv" ++
    "cBdFjcCtDpdBfBqCtbobBobFxbBvgmBvBwCbCkGhfmBvBwCbCkcmBvcCbCkdBvCbCkbCbbCkbGhbCybGcbhcBvCtbFioBfBh" ++
    "BsBuCiCjCqCrDbDdDoDvFpFynBfBhBsBuCiCjCqCrDbDoDvFpFylBfBhBsBuCiCqCrDbDoFpFybEsbEycBfFqbCmdCmCtDsb" ++
    "EvbChcpChbvbFobDjcdDycdFubCxdBbBcCxcBbCxdBbCwCxbCzbscdzbEebBpbEgbGabEhbBebFabEobEnbBkbtbGdbCwbBb" ++
    "bCdbEqbDtbBzbEtbDabDmbDlbCnbEjbEfbDfcDfElbfbCgbCfbEubEkbEdbBxbGgbEibFebElbxbBlbnbCibFfbubDbbEzbC" ++
    "qbDrbCrbBqbDxbFybFbbDobFpbbbBhbGfbBgbGibFgbErblbDgbDhbBtbDcbClbBabBcbBjbcbDqbFrbibEpbDibDnbFsbDz" ++
    "bCobBibFcbEabFzbGebDubDkba"
  (go packed.length packed).toArray

/-- For each code point the number of its set in `usage`. -/
def usageTable : Table := runs <|
    "CnaBabgaBabBvabbpabbfaxbbaBfbbaRhbBnafbfaccuaCodbecdbeBddnbeebadecfeebabeefbebabebadebfbebfuebfC" ++
    "leogqeFbhbibjckbjGmhbfBmlcfBylcfdlbfCdmifBbmefgmlffnbagnboonbobpcnbqBgnbrknlsknktgnbsDvnbuinbaBi" ++
    "novbfCivcfdvBwnBywofChxcfdxBuycfpybfBczcfbzbflvffBfnbfcngfCwnbaBdnDdBabBbbBccdpBabBdbBekBfqBaeBg" ++
    "bfiBgcfcBgcfwBgbfhBgbfbBgdfeBgcfjBgcfcBgcfeBgifbBgefcBgbffBgcfkBhpBgcfdBibfgBiefcBicfwBibfhBibfc" ++
    "BibfcBibfcBicfbBibffBiefcBicfdBidfbBihfeBibfbBihfkBjhBikfdBkbfjBkbfdBkbfwBkbfhBkbfcBkbffBkcfkBkb" ++
    "fdBkbfdBkcfbBkpfeBkcfkBlcBkhfhBkbfdBmbfiBmcfcBmcfwBmbfhBmbfcBmbffBmcfjBmcfcBmcfdBmhfdBmefcBmbffB" ++
    "mcfsBmkfcBnbfgBndfdBnbfeBndfcBnbfbBnbfcBndfcBndfdBndfmBneffBndfdBnbfeBncfbBngfbBnofoBohBnffnBpbf" ++
    "dBpbfxBpbfqBpcfjBpbfdBpbfeBphfcBpbfdBpcfbBpcfeBpcfkBphfjBpnBqbfdBqbfxBqbfkBqbffBqcfjBqbfdBqbfeBq" ++
    "hfcBqgfcBqbfeBqcfkBrbfdBqmfnBsbfdBsbfBzBsbfdBsbfgBsefqBscfBaBsbfdBtbfsBtdfyBtbfjBtbfbBtcfhBtdfbB" ++
    "tefgBtbfbBtbfiBtgfkBtcfdBtmfCgBuefbaBcBuBlfcBvbfbBvbffBvbfyBvbfbBvbfxBvcffBvbfbBvbfhBvbfkBvcfeBv" ++
    "BgfCuBwbfBkBwefBnBwbfBkBwbfpBwbfhBweacBwBlfCmBxkByDiBxBmBzbfbBzffbBzcfBrBzbCaeBzJwCbCvCcbfeCccfh" ++
    "CcbfbCcbfeCccfBpCcbfeCccfBhCcbfeCccfhCcbfbCcbfeCccfpCcbfCfCcbfeCccfCpCccfBgCcdfBaCcgfDiCdcfgCdcf" ++
    "YqCeBdCfdfCxCgdalCghfwChjfbChvCicCjjfuCkmfnClbfdClbfcClmfDqCmcfkCmgfkCmgfcCncCobCnbCouCngfDlCnhf" ++
    "BrCnffCsCekfBfCpbfmCpefmCpefbCpdfmCpBeCqcffCqlfBsCrefBaCrgflCrdfcCrBgCmBcCscfcCsClCtbfBdCtcflCtg" ++
    "fkCtgfoCtcfBfdBxfCzCudfBvCubfCmCvCaCwifeCwCeCxdfpCxdfdCxBwCyjhhfBrBzcfdBziCvifbCzbBabCzbDabBacDb" ++
    "bDcbDbbDcbDdbBacDccBabDcbDbhBabDebDbcBabDbeBabDfbDabDgcDbbBgcDabDhffBmbfebhBxbfeebfenbbhCsbdeCcd" ++
    "bDibdbvfdJwbwecfgecfBmecfgecfiebfbebfbebfbebfBfecfCbebfpebfoecfgebftecfdebfjebfmacdBhabDjCbabfla" ++
    "bbcflabbpabfnbdfBhapfBgdbDkpfBmabedacbgabbBbabbraBpbdaefZnazflavfBJsaJwDlYeacfBgabfEbaDsDmBgbEmg" ++
    "ffhgBmBzbfbBzffbBzcfCeDnhfcDnofbDnxCcjfhCcbfhCcbfhCcbfhCcbfhCcbfhCcbfhCcbfhCcbfBghCpabjBaaBifBaD" ++
    "obfDlDomfIgDoBafmaefbacDpbDqbadDokDpbabDqiDpeDqbajDoeDrcCbbDqfDsbabDqeDocDtcDobfDiDucfeDsdDubDsD" ++
    "mDvbDpbDsdDvffBrcbfDqCbbfqDoBgcBkDomfqDvBfCbbfBoDoyaBfCbbaBxDopamDoeaBvDvbDoDkDvzDokafDoDsaBfDob" ++
    "aJToDoCmaBFBkDoBSvDwdfCdDwjfBwDxLoDyufBvhbjBwhDkDzifiEaBaaDybdaCmbffcbbfbbbffbyfobBtEbdfdEcdEdeE" ++
    "egfCeEfifCsEgifmEggfrBabDbbBabEhmBaBuEibEjbEiBkEklfbEkBdCbdfDaElbfbEmkElefcElBfBxbfCdEnjfoEncfkE" ++
    "ncfeEnBgBxCpEoyffEoxEpkfgCccfgCccfgCcjfhCcbfhCcbfBrbbajbbeebcaefDcCdBuEpcfkEpgfQNsCbmfxCbefBxCbM" ++
    "NcfOcDocfEcDoBmfhbmfflffBambffmbfbmbfcmbfcmbfkmElnqfNzncEqDcncfCcnhfbnBgfcnbErknbErcnqdkagfodchv" ++
    "acDqmabftabfeaeffnbfFfncfbabfBgaBabgaBabgafDpkDvbDsBtDvcDsBfCbdfgCbcfgCbcfgCbcfdCbdfhabfhakffacf" ++
    "mEsbfBaEsbftEsbfcEsbfpEscfoEsBifEtEsffcEtbEuefBtEvdfjEuDbebfnadfbeBvfBtabdFafBdEwdfBxExpfBcEyefB" ++
    "kEzjfdEzBbFaffBrFbffBeFcbfbFcBkFdefoFdBqfDcFeBwFfBeFgcfkFggfBkFhefBkFhefBoFiifCaFjlfbFjlFkbfpFkb" ++
    "fhFkbfcFkbflFkbfpFkbfhFkbfcFkCpfLzFljfwFlkfiFlyfgbbfBqbbfjbCrfgFmcfbFmbfBsFmbfcFmdfbFmcfbFmwFnbf" ++
    "jFnBgFoBfFpifjFpBwftFqbfcFqfffFqBcFrdfbFrBaFsffbFsCmfBgFtyFuefuFucfBuFueFvbfcFvffiFvbfdFvbfBdFvc" ++
    "fdFvefkFvhfjFvhfBgFwBgFxBgfBnFyefhFybFzeFyjfCcGadfhGawGbcfiGbtGcffiGcsGdhfeGdmfhGdDcfCvGeCdfBzGf" ++
    "nfBzGfhfgGfBoGgifkGgLifBfnbfBqGhbfdGhcfcGhCxfdnBoGiifBqGjwfBaGkBmfBcGlufxGmjfDaGnefBkGnjfbGnCpGo" ++
    "kfbGocfzGphfkGpgfCbGqbfsGqifBnGrjfDsGsbfuBtlfsGtbfBvGtCkfhGubfbGubfeGubfpGubflGugfChGvffkGvgfbGw" ++
    "bBobGwbBobfiGwcfcGwcfwGwbfhGwbfcGwbffGwbfcBoiGwcfcGwcfdGwcfbGwgfbGwffhGwcfhGwdffGwFjfDoGxbffGxBe" ++
    "fCuGyifkGyGkfCcGzcfBmGzBifCrHalfkHagfnCntfCgHbgfkHbCcfBbHccfpHcefxHcHdfCiHdDwfDfHemfbHehHfcfbHfc" ++
    "fiHfbfcHfbfBeHfbfcHfcfmHfjfkHfCsfiDhcfBuDhcflDhBbfCuHgifDfHhnfqCeCfHihfkBaJmfjHjbfBtHjbfoHjkfBdH" ++
    "jdfBgHkcfwHkbfoHkCvfhHlbfcHlbfBsHldfbHlbfcHlbfjHlifkHlgfgHmbfcHmbfBlHmbfcHmbfgHmhfkHmLyfzHnhfrHo" ++
    "bfBpHodfBcHoDifbDxpfqBncBobBnbBoBeBnnfbBnBJmHpDyfEhHpbffHplfHoHpDXkfDvHqnfBQsHrFYgfWlHsMUbfVxDzh" ++
    "fBfHtbfkHtefcHtDbHubfkHugfBeHvcfgHvkfCsHwkfkHwbfhHwbfvHwfftHwBAmfDnHxDxfCxHyefCfHyhfrHyCmfbHzbIa" ++
    "cDobIblfcDoofJCaHzifBDoHzScIbBqfjHzNFrfeDvbfhDvbfcDvbfbDvLbDudDvpfbDuBdfdDucfbDvofeDvifPgIaDKufE" ++
    "dIcffnIcdfjIchfkIccfiIcGYufBudcfxdjfEmaCifJmakfBnacfCkaddraidcahdBeaedCjavfCseEsfuamfuamfDjajfsD" ++
    "ohaFffDhabfCtabfcacfbacfcacfeabfmabfbabfhabfCnabfeacfiabfhabfBcabfeabffabfbadfhabfNcacfLgacfByaZ" ++
    "cIdpffIdbfpIdBQmfBfbgfgbIffhDmbfrDmcfhDmbfcDmbffDmffCkhBhfbhEifBtIedfoIecfkIeefcIeMifBfIfrfCgIgf" ++
    "fbIgRwfBqIhBCofhCcbfeCcbfcCcbfpCcbfHpIicfqIiBpfCyIjefkIjefcIjBEffCqaCyfCjaHmfenbfBbnbfcnbfbncfbn" ++
    "bfknbfenbfbnbfbngfbnefbnbfbnbfbnbfdnbfcnbfbncfbnbfbnbfbnbfbnbfbnbfcnbfbncfenbfhnbfenbfenbfbnbfkn" ++
    "bfrnffdnbffnbfrnCafcnKkfBsaefDwamfpacfpabfpabfBlakfGsaCefBaabDucanfBsaefjahfcDoofgaFyfBLwaefradf" ++
    "nadfEpaefDragfmaefbapfmaefCeaifkagfBoaifBeacfcaDafNcamfoacfnadfjahfBuabfhaifoaefjahfjahfFrabfCda" ++
    "BlfkaBNqfCLFcDoBgfGDuDogfIoDocfINqDoofLBlDoEPjfUwDoCFyfHHzDoffGFgDoBOMXlfbaBefDsaEyfJgdLECufaf"

def holds (script : Nat) (c : Char) : Bool :=
  table.value? c.toNat == some script

def isUsedWith (script : Nat) (c : Char) : Bool :=
  match (usageTable.value? c.toNat).bind fun n => usage[n]? with
  | some scripts => scripts.contains script
  | none => false

end Script

end Unicode

end PathSchema
