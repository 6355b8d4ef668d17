import PathSchema.Unicode.Table

/-!
# Binary properties

Each binary property is the set of the code points that have it, given with the
names of the property in small letters.
-/

namespace PathSchema

namespace Unicode

namespace Binary

/-- The packed ranges of every binary property. -/
def packed : Array (List String × String) := #[
  (["ahex", "asciihexdigit"],
    "BwkhgBag"),
  (["alpha", "alphabetic"],
    "CnBagBaBvbkbebfxbBfbRqemofhbbbDibBqfbccebbgbbdbbbubDfbFjiGkbBmcbgBpBnobbbcbcbbiBbeeBdlfCebhoDybi" ++
    "eiedkdcbqBwnDxyBhjcebfycttzhlfybgrBqkmdhgCybqbdepntbicccwbhbbdediccccbbibecbfmckbedbgeccwbhbcbcb" ++
    "cefecccebhebbrgldbjbdbwbhbcbfdjbdbcdbpeveedbicccwbhbcbfdiccccjcecbfnbqcbgddbedcbbbcdcdddmefddbdd" ++
    "bgbBonbdbxbqdibdbdicbdcbceBcebibdbxbkbfdibdbdicgcbendmnbdbBpcibdbdbbfehfwgbdbsdybjbbchigbbbiscnC" ++
    "gfhgbBzcbbbfbybbbtbdcfbbgboeBgbClibBketeqbBkCpCdbbcfqCmkecBmbbfbcBrbMvbechbbbecBpbecBhbechbbbecp" ++
    "bCfbecCpBlqqDicgdXwcrbBafCxdlhulvmumnbdbcmCactobebCpDlhBrfCskBfbmejxBecflBseBaCcBceClcuBybxcldBx" ++
    "CabpbiBzBqcekBsbloCdwdkBkcjhBrcdBpebgbcdbfHkBnolKscgcBmcgcibbbbbbbBfcCbbhbbddbhdecgenfdbhEmbnbqn" ++
    "DxbebckbbdfgbbbbbbeblceffebrBpBFhCaCRuIvgedcmBmbbfbcCehbqxjhbhbhbhbhbhbhbhbBgBvbSbdzjhfcfeDigdbD" ++
    "mbefBrbDqrBgBwqTsJToCmBGUfCpBucKjdqkcuBvfidEjBnjcDzcCmfcbbbfyubBhyCamCqbbBsgdbbdkBhfBjnBddBzbmpb" ++
    "qqkfbCdjosxdCrbbbbydcqcelgcgcgjhbhbBrbogEtvQNsmxeBxMNcOccEcBmhmffmbnbfbbbcbcbEeBhNzsCmcCcBomEmfb" ++
    "FfBkBagBalDldgcgcgcdBjmbBabtbcbpcoBiEtCrCbKhBddBxBvBgnBefBrfBecBkeibfBqGcsBkeBkeBoiCamlbpbhbcblb" ++
    "pbhbcCpLzjwkiygbBqbjCrgcbbBsbcdbcxkxjBfCntbckwkBaCsCegcCmebcfibdbBdBqBddBdBjibBcBbCckwktnsEgCvCd" ++
    "BznBznBoNgBqbcdcDaBdkbiwBqsBuvBbxjCsBrfkCfjbnzxBzreiBjdbjCmbejckbbbBjsbBicbgeCkhbbbebpbkhCfxebic" ++
    "ccwbhbcbfdiccccdbgbfhGaCobdbeudBeCoccbbHcCcchzgBiClbbdbChCccbCtBbcovhHdCfDzCmBficbcibcbBebcccceD" ++
    "picBucgbbbcBbBzckrCufbsCvKdjbBtbhbbBxBecwboCvhbcbBsdbbcbdbbccygbcbBlbcbebbMpxjrbBpddEhbDbBJmDyEh" ++
    "rHoDXkDtpBPgrgFYvWlMUbVxhBfrDbrBesBwqeBfvftBAmCmEyCxeCfhrCmcbbmcoJCaiBVqBqjNFrebhbcbLfpbBddcboei" ++
    "PgDKuEdfndjhkebIWfDhbCtbccbcccebmbbbhbCnbecibhbBcbebfbbdhbNcczbzbBfbzbBfbzbBfbzbBfbzbiCSyBfggIfh" ++
    "brchbcbffCkBhbEiBtkhqbMjBesBsSqBcBDchbebcbpbHpChCqdbdbBUiebBbbcbbcbbkbebbbbgbebbbbbbdbcbbcbbbbbb" ++
    "bbbbcbbcebhbebebbbkbrfdbfbrYeBagBagBaFMkCLFcBgGDugIocINqoLBlEPjUwCFyHHzfGFg"),
  (["bidic", "bidicontrol"],
    "CIebJVlcBafCde"),
  (["bidim", "bidimirrored"],
    "BocsbbbBcbbbBdbbbBtbpbFMseCUncDQqckcCccocGvbHkedgdbdcdebebbbbejfbbsfejcbbbicBfcefbjcctfcjfcceycq" ++
    "ieuchcBPtoCwbcebcbdfefddoPnwcgboibhgdbefbccfebbdcckgccmtbecbbbcbbefcgdyclceebccceBrcibBofbbbdffd" ++
    "ebdfbbJwbTvedcbcocckBriQlkciDACrgfcGgcsbbbBcbbbBdbbbbcbcDDPnbCfbCfbCfbCfb"),
  (["ci", "caseignorable"],
    "BnbgblbBjbbbCtbebbbebccTjHkecebjcbbJrhHzbfbBxBtbbbcbcbbBsblgklbbBjbkvqbDxibkbeBhbbbBeBbDnlCglebc" ++
    "byyBrdBsbhcgiBpCgCdbbbeiebdhkcnbpbCgbeeibucBabccCfbececcddbBecdblcCfbefbcebucwgbbCgbcbbeibhclcBe" ++
    "bCjbmbBybdbCdbbdfdbehclcBdbCgbcbgbfcucBccCfceeibucBdbCubhdbbDmbchljDubcjjbbhCvcBbbbbbbCdobfbcflb" ++
    "BkjbDyebgbccczcedqenbccgbpbDqbXkdBKkdBdcBecBecCmcbhibcldbfbBtfBzbCncBibEodecjbgdIlccbCgbbhbbbbci" ++
    "gkcbBnbiBfBxeBwbbfbbfbBojmcBgeccbdCebbcdbbdCgiccCmgDedbnbhebgbdcByClnbBiDxRdbbdldndndncmfickbcbc" ++
    "fBxfbkbbnbqnBzBhEJrcEjdEvbpbDsBgBvbSbbBkedffbDpgDpdBQBubBWcgKkbDuebkbbBceDccoBiDabxdDzddcibdbebz" ++
    "cfbFvcBasnbBmizlBudBwbceccrbvcCogccccmbibBjblbBzbbdccfcbbBbbocfcbbDwfjdErbcbebBDZsbFrrWbqdbmqBib" ++
    "cbGnbhbgblbBjbbbBvbBtcCpbvdTtbIsbFtfBNpgbBqbjWkdbcfeBodebGjcWbeOxcDcdCslBxeEtbCcpBpbcckdBxecccbe" ++
    "bkbBydBkfbiCkbmcCajkecbDrdcbbcgbcbGbbdivcCfcdbBlhdfHnicdbbxbDggbbecbcJeegcbcBbcDhicbbcEcbbbcgbbD" ++
    "xdcebfJzjbcJwcbbebFoeccebBgkBogceibjgcdBunbcPqhbgbbDewchbcbcEsgdbbcbhbbCucdbbbNjclcCaffbbbHYbrgp" ++
    "URqfChhjeBNvbClrCmcbcYGpebhbcEUgcbeGYuBucxUydjqchBeeFsdCYdCdeByibobwfbpCAihbrchbcbffCkBhbGeoOebC" ++
    "jeTnfBMehEfiEBffBSXXpbBeDsEyJg"),
  (["cased"],
    "CnBagBaBvbkbebfxbBfbHnbeeIabBkhcBefDsbBqecccebbgbbdbbbubDfbFjiGkbBmjBpEFfBmbbfbcBrbeZwDicgDFujhB" ++
    "rcdCmHkCmKscgcBmcgcibbbbbbbBfcCbbhbbddbhdecgenfdbhEmbnbqnDxbebckbbdfgbbbbbbebgebceffebrBgdcBFlCa" ++
    "CRuIvgedcmBmbbfbBTWcBusBeFcDydebChfcbbbfyfbdBFpBrbogDcBEAihmfBNtBagBaBTtDcDsBkeBkEmlbpbhbcblbpbh" ++
    "bcRjbcdbBqbjBUzBznBzEKzCmBGIqCmBMLkDhbCtbccbcccebmbbbhbCnbecibhbBcbebfbbdhbNcczbzbBfbzbBfbzbBfbz" ++
    "bBfbzbiCSykbuggKbCkDGkCqDAaBagBagBa"),
  (["cwcf", "changeswhencasefolded"],
    "CnBaDmbkxbiBgbbbbbbbbbbbbbbbbbbbbbbbbbbbbbbbbbbbbbbbbbbbbbbbbbbbbbbbcbbbbbbbbbbbbbbbbcbbbbbbbbbb" ++
    "bbbbbbbbbbbbbbbbbbbbbbbbbbbbbbbbbbbcbbbbbbbcbbbcbdcebcbddcbcbbbbbcbbcbbcbdbbbcdbhcbcbcbbbbbbbbbb" ++
    "bbbbbbcbbbbbbbbbbbbbbbbbccbbbdbbbbbbbbbbbbbbbbbbbbbbbbbbbbbbbbbbbbbbbbbbbbbbbbbbbbbbbbbbhcbccbbe" ++
    "bbbbbbbbJmbBqbbbdbibgbbdbbbcbrbjwbmddcbbbbbbbbbbbbbbbbbbbbbbbbbcccbbbccBzBwbbbbbbbbbbbbbbbbbbbbb" ++
    "bbbbbbbbbbbbjbbbbbbbbbbbbbbbbbbbbbbbbbbbbbbbbbbbbbbbbbbbbbbbbbbbbbbcbbbbbbbbbbbbcbbbbbbbbbbbbbbb" ++
    "bbbbbbbbbbbbbbbbbbbbbbbbbbbbbbbbbbbbbbbbbbbbbbbbbbbbbbbbbbbbbbbbbbbbbbbbbbbbbbbbcBmBwbEFgBmbbfbB" ++
    "FegDFujhBrcdMibbbbbbbbbbbbbbbbbbbbbbbbbbbbbbbbbbbbbbbbbbbbbbbbbbbbbbbbbbbbbbbbbbbbbbbbbbbbbbbbbb" ++
    "bbbbbbbbbbbbbbbbbbbbbbbbbbbbbbbbbbbbbbbbbbbbbbbbbbbbbbbbbbbbbbbbbbbfccbbbbbbbbbbbbbbbbbbbbbbbbbb" ++
    "bbbbbbbbbbbbbbbbbbbbbbbbbbbbbbbbbbbbbbbbbbbbbbbbbbbbbbbbbbbbbbbbbbbbbbbjiigkiiiiglbbbbbbbiiqBwcd" ++
    "cgfdcglemffdcgLlbdcgbBtqtbBFmBaCSuBwBwbbdcbbbbbbebbcbidbbbbbbbbbbbbbbbbbbbbbbbbbbbbbbbbbbbbbbbbb" ++
    "bbbbbbbbbbbbbbbbbbbbbbbbbbbbbbbbbbbbbbbbbbbbbbbbbbbbbbbbbibbbebBTYjbbbbbbbbbbbbbbbbbbbbbbbbbbbbb" ++
    "bbbbbbbbbbbbbbbbtbbbbbbbbbbbbbbbbbbbbbbbbbbbFfbbbbbbbbbbbbbdbbbbbbbbbbbbbbbbbbbbbbbbbbbbbbbbbbbb" ++
    "bbbbbbbbbbbbbbbbbbbbbbbbbkbbbbcbbbbbbbbebbbcbbbdbbbbbbbbbbbbbbbbbbbbfbfbbbbbbbbbbbbbbbebbgbfbbbB" ++
    "cbBIgDcBEAihmfBNtBaBUzBoFgBkGalbpbhbcCQcBzENlBgBGJwBgBULkBi"),
  (["cwcm", "changeswhencasemapped"],
    "CnBagBaCgbkxbBfbCmbDgbnbococcbbeDpbsgBbbcbbbcdcbbbcbfcbbccbhbcbbcdgfbkcGkbBqeccddbbgbbdbbbubBvdB" ++
    "hbfbFdiGkbBmkBnEFgBmbbfbcBrcdZwDicgDFujhBrcdHdbdbqbEjGacbbEocgcBmcgcibbbbbbbBfcCbbhbbddbhdecgenf" ++
    "dbhLlbdcgbBbbrBgdcBFlCaCRuEjbcbchDyhedcmBmbbfbBTWcBusBcFeocCkjpddcfbzbBbfceeBbcBHcbBcDcBEAihmfBN" ++
    "tBagBaBTtDcDsBkeBkEmlbpbhbcblbpbhbcCOpBznBzEKzCmBGIqCmBUKeCq"),
  (["cwl", "changeswhenlowercased"],
    "CnBaDxxbhBhbbbbbbbbbbbbbbbbbbbbbbbbbbbbbbbbbbbbbbbbbbbbbbbbbbbbbbbcbbbbbbbbbbbbbbbcbbbbbbbbbbbbb" ++
    "bbbbbbbbbbbbbbbbbbbbbbbbbbbbbbbbbcbbbbdcbbbcbdcebcbddcbcbbbbbcbbcbbcbdbbbcdbhcbcbcbbbbbbbbbbbbbb" ++
    "bbcbbbbbbbbbbbbbbbbbccbbbdbbbbbbbbbbbbbbbbbbbbbbbbbbbbbbbbbbbbbbbbbbbbbbbbbbbbbbbbbbhcbccbbebbbb" ++
    "bbbbLdbbbdbibgbbdbbbcbrbjBjbibbbbbbbbbbbbbbbbbbbbbbbfbcbbccBzBwbbbbbbbbbbbbbbbbbbbbbbbbbbbbbbbbb" ++
    "jbbbbbbbbbbbbbbbbbbbbbbbbbbbbbbbbbbbbbbbbbbbbbbbbbbbbbbcbbbbbbbbbbbbcbbbbbbbbbbbbbbbbbbbbbbbbbbb" ++
    "bbbbbbbbbbbbbbbbbbbbbbbbbbbbbbbbbbbbbbbbbbbbbbbbbbbbbbbbbbbbbbbbbbbbcBmEHdBmbbfbBBuDiDGsBrcdMibb" ++
    "bbbbbbbbbbbbbbbbbbbbbbbbbbbbbbbbbbbbbbbbbbbbbbbbbbbbbbbbbbbbbbbbbbbbbbbbbbbbbbbbbbbbbbbbbbbbbbbb" ++
    "bbbbbbbbbbbbbbbbbbbbbbbbbbbbbbbbbbbbbbbbbbbbbbbbbbbjbbbbbbbbbbbbbbbbbbbbbbbbbbbbbbbbbbbbbbbbbbbb" ++
    "bbbbbbbbbbbbbbbbbbbbbbbbbbbbbbbbbbbbbbbbbbbbbbbbbbbbbjiigkiiiiglbbbbbbbiiyiiiiiiflflemflfLlbdcgb" ++
    "BtqtbBFmBaCSuBwBwbbdcbbbbbbebbcbidbbbbbbbbbbbbbbbbbbbbbbbbbbbbbbbbbbbbbbbbbbbbbbbbbbbbbbbbbbbbbb" ++
    "bbbbbbbbbbbbbbbbbbbbbbbbbbbbbbbbbbbbibbbebBTYjbbbbbbbbbbbbbbbbbbbbbbbbbbbbbbbbbbbbbbbbbbbbbtbbbb" ++
    "bbbbbbbbbbbbbbbbbbbbbbbFfbbbbbbbbbbbbbdbbbbbbbbbbbbbbbbbbbbbbbbbbbbbbbbbbbbbbbbbbbbbbbbbbbbbbbbb" ++
    "bbbbkbbbbcbbbbbbbbebbbcbbbdbbbbbbbbbbbbbbbbbbbbfbfbbbbbbbbbbbbbbbebbgbfbbbBcbBHAhBaBUzBoFgBkGalb" ++
    "pbhbcCQcBzENlBgBGJwBgBULkBi"),
  (["cwt", "changeswhentitlecased"],
    "DtBaCgbBpybibbbbbbbbbbbbbbbbbbbbbbbbbbbbbbbbbbbbbbbbbbbbbbbbbbbbbbbbcbbbbbbbbbbbbbbcbbbbbbbbbbbb" ++
    "bbbbbbbbbbbbbbbbbbbbbbbbbbbbbbbbbbcbbbbdcbbbcbdbfbcbdcdbcbbbbbcbebcbdbbbcbdbbbebbcbcbbbbbbbbbbbb" ++
    "bbbbbcbbbbbbbbbbbbbbbbbdbbbbdbbbbbbbbbbbbbbbbbbbbbbbbbbbbbbbbbbbbbbbdbbbbbbbbbbbbbbbbbibccbbebbb" ++
    "bbbbbgbcbbbcdcbbbcbfcbbccbhbcbbcdgfbkcGkbBrbbbdbddsbBbBjbcddbbbbbbbbbbbbbbbbbbbbbbbfbbcbcbCaBwbb" ++
    "bbbbbbbbbbbbbbbbbbbbbbbbbbbbbbbbjbbbbbbbbbbbbbbbbbbbbbbbbbbbbbbbbbbbbbbbbbbbbbbbbbbbbbcbbbbbbbbb" ++
    "bbbcbbbbbbbbbbbbbbbbbbbbbbbbbbbbbbbbbbbbbbbbbbbbbbbbbbbbbbbbbbbbbbbbbbbbbbbbbbbbbbbbbbbbbbbbbbbb" ++
    "bbbbBxBnFMegDFujJgbdbqbEkbbbbbbbbbbbbbbbbbbbbbbbbbbbbbbbbbbbbbbbbbbbbbbbbbbbbbbbbbbbbbbbbbbbbbbb" ++
    "bbbbbbbbbbbbbbbbbbbbbbbbbbbbbbbbbbbbbbbbbbbbbbbbbbbbbbbbbbbbbbbbbbbbbbbbbbbbbhfbbbbbbbbbbbbbbbbb" ++
    "bbbbbbbbbbbbbbbbbbbbbbbbbbbbbbbbbbbbbbbbbbbbbbbbbbbbbbbbbbbbbbbbbbbbbbbbbbbbbjigkiiiigkiiiiociii" ++
    "iiifbcgbddbciecciikdbcNebBhqebBGlBaCTqBwbbdcbbbbbbgbcbkbbbbbbbbbbbbbbbbbbbbbbbbbbbbbbbbbbbbbbbbb" ++
    "bbbbbbbbbbbbbbbbbbbbbbbbbbbbbbbbbbbbbbbbbbbbbbbbbbbbbbbbbbibbbebmBmbbfbBTWdbbbbbbbbbbbbbbbbbbbbb" ++
    "bbbbbbbbbbbbbbbbbbbbbbbbtbbbbbbbbbbbbbbbbbbbbbbbbbbbFfbbbbbbbbbbbbbdbbbbbbbbbbbbbbbbbbbbbbbbbbbb" ++
    "bbbbbbbbbbbbbbbbbbbbbbbbbbbbbbbbbkbbbcbbbbbbbbbebebbccbbbbbbbbbbbbbbbbbbblbbbbbbbbbbbbbbbebbbgbf" ++
    "bbbBcbBHcbBcDcBEAihmfBOzBaBVhBoFgBkFzlbpbhbcCRbBzEMfBgBGJwBgBULmBi"),
  (["cwu", "changeswhenuppercased"],
    "DtBaCgbBpybibbbbbbbbbbbbbbbbbbbbbbbbbbbbbbbbbbbbbbbbbbbbbbbbbbbbbbbbcbbbbbbbbbbbbbbcbbbbbbbbbbbb" ++
    "bbbbbbbbbbbbbbbbbbbbbbbbbbbbbbbbbbcbbbbdcbbbcbdbfbcbdcdbcbbbbbcbebcbdbbbcbdbbbfcbcbcbbbbbbbbbbbb" ++
    "bbbcbbbbbbbbbbbbbbbbbcbcbbdbbbbbbbbbbbbbbbbbbbbbbbbbbbbbbbbbbbbbbbdbbbbbbbbbbbbbbbbbibccbbebbbbb" ++
    "bbbgbcbbbcdcbbbcbfcbbccbhbcbbcdgfbkcGkbBrbbbdbddsbBbBjbcddbbbbbbbbbbbbbbbbbbbbbbbfbbcbcbCaBwbbbb" ++
    "bbbbbbbbbbbbbbbbbbbbbbbbbbbbbbjbbbbbbbbbbbbbbbbbbbbbbbbbbbbbbbbbbbbbbbbbbbbbbbbbbbbbcbbbbbbbbbbb" ++
    "bcbbbbbbbbbbbbbbbbbbbbbbbbbbbbbbbbbbbbbbbbbbbbbbbbbbbbbbbbbbbbbbbbbbbbbbbbbbbbbbbbbbbbbbbbbbbbbb" ++
    "bbBxBnEHcBrcdBDggDFujJgbdbqbEkbbbbbbbbbbbbbbbbbbbbbbbbbbbbbbbbbbbbbbbbbbbbbbbbbbbbbbbbbbbbbbbbbb" ++
    "bbbbbbbbbbbbbbbbbbbbbbbbbbbbbbbbbbbbbbbbbbbbbbbbbbbbbbbbbbbbbbbbbbbbbbbbbbbbbbbbbbhfbbbbbbbbbbbb" ++
    "bbbbbbbbbbbbbbbbbbbbbbbbbbbbbbbbbbbbbbbbbbbbbbbbbbbbbbbbbbbbbbbbbbbbbbbbbbbbbbbbbbjigkiiiigkiiii" ++
    "ocCbbcebbbddbcebdecciikdbcebMzbBhqebBGlBaCTqBwbbdcbbbbbbgbcbkbbbbbbbbbbbbbbbbbbbbbbbbbbbbbbbbbbb" ++
    "bbbbbbbbbbbbbbbbbbbbbbbbbbbbbbbbbbbbbbbbbbbbbbbbbbbbbbbbbbbbbbbbibbbebmBmbbfbBTWdbbbbbbbbbbbbbbb" ++
    "bbbbbbbbbbbbbbbbbbbbbbbbbbbbbbtbbbbbbbbbbbbbbbbbbbbbbbbbbbFfbbbbbbbbbbbbbdbbbbbbbbbbbbbbbbbbbbbb" ++
    "bbbbbbbbbbbbbbbbbbbbbbbbbbbbbbbbbbbbbbbkbbbcbbbbbbbbbebebbccbbbbbbbbbbbbbbbbbbblbbbbbbbbbbbbbbbe" ++
    "bbbgbfbbbBcbBHcbBcDcBEAihmfBOzBaBVhBoFgBkFzlbpbhbcCRbBzEMfBgBGJwBgBULmBi"),
  (["dash"],
    "BtbCAubBzbFKjbBNpbDBdgCjbBnbpbPabEOibcbBfcebBcbRebtbEhbCZWacBlbkbGnbFXvb"),
  (["di", "defaultignorablecodepoint"],
    "GrbZxbBBobEGwcCKhcDhfDApfBafBxqGKybCZMpqJfbGebDbjCTLneHWxiBTKZlGBo"),
  (["dep", "deprecated"],
    "MrbBYvbDKtbbbDCjcDIjgBAvcBZRYkb"),
  (["dia", "diacritic"],
    "DqbbbCtbgbebccTjGdbifgrcebjcJtfIbbCdrbBbbbbcbbFeiecFececddCpBbDnlCglBicEwiBpkqBcCjbqbdeBcbCwbqbE" ++
    "gbqbEgbqbBvdCibqbhbEpbEgbqbEgbqbEfcqbEubEugbbEdbnfCxcBbbbbbbecCodbcCkbEibbcBocefzhbbkcBBddBKmcGx" ++
    "ljbNjdMbicbBwpclEabpbBmjCccFicCmgDezebgbcdByClDlmBllRdbbdldndndncEXkdMfbTmgEbeDrbBSMkbmcbbBccDec" ++
    "oBiDydEfcHubBbsCfeBkbDrbmbBkbFtdCneBzbDwfjdEycBDZsbBDpqKkbbbBvbBtcCpbBDkbBTngbBqbjBFecVzgSbdCslB" ++
    "xeHkbBpbCucEqcCkbCybjdEacGwcDdbqbyhdfHxbdbEtcJrcEwbEocElbKjcJycebGabDfbsbDdbQfbJybbcDdbIPjpURqfC" ++
    "hhBQurDccYGcebhbcLThBucxUyddgiichBeeFMwCkHmhOlbCjeCFwhEfdbd"),
  (["emoji"],
    "BjbgbfkEhbebLYrbmbIibwbDmgpcOdcmbGkbzledHrbIxckbjbCgebfjbcbcccbebcbbccbdbdcidfbbbfmlccbbcbbsbccs" ++
    "gbbbcdcfbcceclcfccbfcbbbcucfgbecbebcbcgbbcbbbbbgbdbgbkcpbcbebbbedbblcBwdjbobobOicRvdtcBzbebBVubm" ++
    "bXdbbbGMRqbHubGecmcobckCxBabcxbubcjvcGsBicEiccbdcDfcdbKdbCllgbyhccimbcecbecnccbicjbfdmdidcbbbebg" ++
    "bdbgDiBwCsficdekdbbcdbckItmebKxBvbkbHdEindjhBubhioejhj"),
  (["ecomp", "emojicomponent"],
    "BjbgbfkMBjbIfbDFTrbDOIwBaTnfCEaeBSVUqDs"),
  (["emod", "emojimodifier"],
    "HHIxf"),
  (["ebase", "emojimodifierbase"],
    "OLhbIlbqeGSJvbCidcbcdEncclvtdbedbdhbbbybHtcebvbecGsddfDfbqdjblbWdbcbiigbjkcdCebCjcbcbbrdbnIvdBqj"),
  (["epres", "emojipresentation"],
    "NHqcHxedbcbUbcvcBymBrbtbnbicrcfcibfbvbhcbbebcbhbecBcbBjbbbedbbCjdybobBHbcBzbebGPLebHubHibckCxBab" ++
    "bybubcfbdvcGsBhmjbCsbwmBrefmrdbdCtbbbHfcClnebysbBacnbDiDhBwCsgbddcdeelchjItmebKxBvbkbHdEindjhBub" ++
    "hioejhj"),
  (["extpict", "extendedpictographic"],
    "GnbebLYrbmbIibwbDmgpcOdcmbDrbCsbzledHrbIxckbjbCgebgbmbEkkEoclbbbbgbdbgbkcpbcbebbbedbblfBtdjbobob" ++
    "OicRvdtcBzbebBVubmbXdbbbGMRmJwndBfbCigmcobcksCfBbpkbubcjbejQsfMgiKgBwEyEmmDhBrmeCeikgBoiBeDemBvb" ++
    "kbQzJwBNi"),
  (["ext", "extender"],
    "HbbUqcBHubQzbBHabBCybExbDNfbCebXnbPibCqbHKjbBrfDzcDpdBQBubCGsbBLabwbFhbEebvcBFZvbDBkcEMsbXsdBVjb" ++
    "BEOfcBTkcbbBQYacDBad"),
  (["grbase", "graphemebase"],
    "BgDrBhnbWwEiicgehbbbubIqhGkbBmcBycdBubbbcbcbjBbegrklbbBuvqbDxibgccbeBgcbbBeBdDllboBrjhdyebjbdbhp" ++
    "bzfbblfBfrBqCfCdbbbeiebdhkcBdbcbicccwbhbbdedbbcgcccbbncbdeyfbbgeccwbhbcbcbcedyebbhkcdbbmbbjbdbwb" ++
    "hbcbfdeibbcdbpcemhbicbicccwbhbcbfdbcbgcccpcbdeslbbgddbedcbbbcdcdddmfbbcddbddbvvgdbibdbxbqdbdetdc" ++
    "bccekhkblbdbxbkbfdcbcbcccbcrcbcekbdolbdbBpcbbcfdbdbcedbkeBaccbsdybjbbchjcghhkcdmBwbcliinBlcbbbfb" ++
    "ybbbkbcjbcfbbjkceBgycBbbbbbbobBksbfbcfBxibgbnBlBtebgbccczcedqenbccgbpbBobbfbcOnbechbbbecBpbecBhb" ++
    "echbbbecpbCfbecCpfBddBagDicgcZtdDlhsdbjtcdjsonbdpCacbhibcljdkgkglfkgDlhfcBibbfCskBfeecdecbghbdBq" ++
    "cflBseBagldCfccdCebbjbbcignkgkgoDiBwhbbfbkdBbjldBgeccbdCebbcdbbdciBwicfpdCihBrcllbnbhebgbdcbfHkC" ++
    "mKscgcBmcgcibbbbbbbBfcCbbpbocgbtcdbjblfyhBxqccBbbndBhClFkeZnzlvCRscBgbNgdcfBtbbfbcCehcpxjhbhbhbh" ++
    "bhbhbhbhBhDqBiBabDlmIgBameBqgqbDieDxfBrbDqbDgmBvbBRIrdCdjNkuBvebkBgcDccgiHvfcbbbfyqbdbebzcfekgCe" ++
    "iCqkmynbBmizlclBegBwbceccqblehbzbBpgcccldbibbckcBgbBzbbdccfcbbbyrcilgcgcgjhbhbCieEnbcbedkgQNsmxe" ++
    "BxMNcOccEcBmhmffbbybfbbbcbcbEvqRdcCchbBgqqkwBjbtbeefbFfeGbcBfdgcgcgcddhbhnccmbBabtbcbpcoBiEtfdeB" ++
    "tdDkbndbBvBtFbBddBxqBbeBkjBefBmkBebBleoBqGcckgBkeBkeBoiCalmbpbhbcblbpbhbcCpLzjwkiygbBqbjCrgcbbBs" ++
    "bcdbcxbCuijBwtbcfBhdBbfbCmCeeucBvpebdbBdkjhjhCmBgBlgmjCcdBdcBbfBahemhDcCvCdBznBzhBqmkLiBfbBqdbcc" ++
    "DaBoiwljwseeBmBcuxjbbCcpheBebccbmBxecccbeozhkjBkfbjsiBjbdlCajkecbqbulsbBcdcbbcgbcClhbbbebpblgBvb" ++
    "dnkicbicccwbhbcbfdbbbbecccdcbmhGaCeicdbbvbbbdBeBwbcgbbcbbcbceikGkBvbcgecbcBbBkBzicbbcelkgntBrbbb" ++
    "cgbbcgkCcBbfcebjxHdBvjbcbDwDfmicbcibcbybfbcebbebdjkCsicBqiebeBbbkBogceijbgcdBunbcjnCvhkJmjbBmobb" ++
    "gkBddBgzbhbcbCxhbcbBmvbjkggbcbBlecbbbbhkLytcejpbBkicbbbxDibpBynBJnDyEhbflHoDXkDvnBPgrgFYvWlMUbVx" ++
    "hBfbkeDdbkgBehbkBwhpkkbhbvftBAmDnDxCxfCelnCmemcoJCaiBVqBqjNFrebhbcbLfpbBddcboeiPgDKuEdfndjhkcbcb" ++
    "HCaEmCiJmkBncCibbdevchBeeCjvCodbEsumumDjjzFfDhbCtbccbcccebmbbbhbCnbecibhbBcbebfbbdhbNccLgcVqCdeB" ++
    "yibobhBRwBfggKbCkFqBtkhckecMiBesBsekfbRwBcekBCohbebcbpbHpcjBwCqhbekecBEfCqCyCjHmebBbbcbbcbbkbebb" ++
    "bbgbebbbbbbdbcbbcbbbbbbbbbbcbbcebhbebebbbkbrfdbfbrCacKkBseDwmpcpbpbBlkGsCeBdnBsejhcogFyBLwerdndE" ++
    "peDrgmebpmeCeikgBoiBeccDaNcmocndjhBubhioejhjhFrbCdBlkBNqCLFcBgGDugIocINqoLBlEPjUwCFyHHzfGFg"),
  (["grext", "graphemeextend"],
    "BDoEiKphKdBtbbbcbcbbCulBwvqbDxhcgccbeBjbBeBbDnlCgjjbyebjbdbfBrdCiiBqybBgCdbbbeiebdhkcBdbCgbbbcei" ++
    "bjbkcBabccCfbececcddbBecdblcCfbefbcebucwgbbCgbbcbeibhdkcBebChbbbmbjbBobdbCdbbdfdbehclcBdbCgbcbcb" ++
    "dbfchclcBccCfcbbceibjbkcBdbCubebcdbbibDdbchmiDubcjlhCvcBbbbbbbCdobfbcflbBkjbDyebgbccczcedqenbccg" ++
    "bpbBBbdBKkdBdcBecBecCmcbhibcljbBtdbbEncBibEodecjbgdIlccbCgbbhbbbbcigkcbBwBfBxeBwhbbfbBojmcBgeccb" ++
    "dCebbcdbbdCgiccFwdbnbhebgbdcHqCmUebHnBhEOcdFlbDsBgVigEbcBSQeebkBgcDccKmbdbebzcfbFvcBasnbBmizlBud" ++
    "BwbceccBnbCpgccccmbibBvbBzbbdccfcbbBqcibJebcbebBDZsbBCjqqqOccXhbIsbFtfCMgdbcfeBodebGjcWbeOxcDcdC" ++
    "slBxeEtbCcpBpbcckdBxecchbCjdBkfbiCkbmcCajkecbDrdcbbcgbcbGbbdivcCfcbbbbwbohdfHnicdbbxbDdbcgbbcbbc" ++
    "bcJbbcegcbcBbcDhicbbcEcbbbcgbbDxdcebfJzjbcJlbkcbbebFoeccebBgkBogceibjgcdBunbcPqhbgbbDewchbcbcEsg" ++
    "dbbcbhbbCucdbbbNjclcCaffbbbHYrbgpURqfChhBOibCleDdbBDBkcGYzBucxUwbbdefiichBeeFsdCYdCdeByibobwfbpC" ++
    "AihbrchbcbfDwbGehOlbCjeToeBMehEfhBTCAfDsEyJg"),
  (["hex", "hexdigit"],
    "BwkhgBagDSLlkhgBag"),
  (["idsb", "idsbinaryoperator"],
    "SEacci"),
  (["idst", "idstrinaryoperator"],
    "SEcc"),
  (["idc", "idcontinue"],
    "BwkhBaebbBaBvbkbbbcbfxbBfbRqemofhbbbrEnbccebbgfbbbubDfbFjbfcGkbBmcbgBpiBtbbbcbcbbiBbeeBdlfCweDyb" ++
    "ickbtcbqChcDxoCcebcbcBusBcelfybgjCwbEzckbtbicccwbhbbdecjccceibecbfcmkbbbcdbgeccwbhbcbcbccbbfeccd" ++
    "dbhebbhqldbjbdbwbhbcbfckbdbdcbpeckjhbdbicccwbhbcbfcjcccdhdecbfckbbqcbgddbedcbbbcdcdddmefddbecbgb" ++
    "okqnbdbxbqcjbdbehcbdcbceckqebibdbxbkbfcjbdbehcgcbeckbdmnbdbBzbdbffehfckkgbdbsdybjbbchdbegbbbigkc" ++
    "cnCgfpbkBncbbbfbybbbxcfbbbhbkceBgbxcgklbbbbbekbBkeubsbBkjbCfCwgDacBmbbfbcBrbMvbechbbbecBpbecBhbe" ++
    "chbbbecpbCfbecCpcdjjoqqDicgdXwcrbBafCxdlhwjwlumnbdbcmDgdbecckBhdblgDlhBrfCskBfbmemkBocflBseBaglB" ++
    "lBceClbBdclgknbiobqBxCzdkrjmEmmCeikdBxcjhBrcdqdbBnfUocgcBmcgcibbbbbbbBfcCbbhbbddbhdecgenfdbhCoct" ++
    "bBcbnbqnBznebdmrbebckbbcggbbbbbbqceffebrBpDZbIvgjmBmbbfbcCehbpyjhbhbhbhbhbhbhbhbBgTxdzpbfcfeDich" ++
    "bDmbefBrbDqrBgBwqTsJToCmBGUfCpBucKjdBcuBwekbElBljcDzcCmfcbbbfyCcebtCamCskkgydbbBxcBkmBddCnolgBfb" ++
    "CdjockgxdCvydcqcfkgcgcgjhbhbBrbogEtbcckgQNsmxeBxMNcOccEcBmhmffmbnbfbbbcbcbEeBhNzsCmcCcBomeqqqdcy" ++
    "dBgfbFftkhBaebbBalDldgcgcgcdBjmbBabtbcbpcoBiEtCrCbFgbFaBddBxpbBfBgnBefBrfBecBkeibfBqGcckgBkeBkeB" ++
    "oiCamlbpbhbcblbpbhbcCpLzjwkiygbBqbjCrgcbbBsbcdbcxkxjBfCntbckwkBaCsCegcCmebcfibdbBdcdebBgBddBdBji" ++
    "bBezCckwktnsEgCvCdBznBznBoikMoBqbcdcCxBgkbiBhBfwBqvBbxjCtBfqjCihbnzhkgCbbkeeiBkcbjCreebnbbBjsbBl" ++
    "geCkhbbbebpbkhChfkgebicccwbhbcbfbkcccdcbgbfhchdfFjCxfkeeBeCsbbikGkCccjxgBiCndblkBmCfhkCcBbcpekgh" ++
    "HdChDxCwvicbcibcbBebccjmkCsicBucibcBbClibiCwdbsCvKdjbBtbjpkyBecwboCvhbcbBsdbbcbjikggbcbBlbcbghkL" ++
    "yxjrbBpdfnkDibDbBJmDyEhrHoDXkDtpBPgqwFYgWlMUbVxhBfbkgDbbkgBecflCdjemkjvftBAmCmEyCxeCfhrCmcbclcoJ" ++
    "CaiBVqBqjNFrebhbcbLfpbBddcboeiPgDKuEdfndjhkdcGYzBucxUwfdgiichBeeFsdRbDhbCtbccbcccebmbbbhbCnbecib" ++
    "hbBcbebfbbdhbNcczbzbBfbzbBfbzbBfbzbBfbzbicByTsCdeByibobwfbpBQmBfggIfhbrchbcbffCkBhbEiBtdockebMjB" ++
    "frCgScBqBCohbebcbpbHplhBpCyekBTuebBbbcbbcbbkbebbbbgbebbbbbbdbcbbcbbbbbbbbbbcbbcebhbebebbbkbrfdbf" ++
    "brFAakBNqCLFcBgGDugIocINqoLBlEPjUwCFyHHzfGFgBONHgJg"),
  (["ids", "idstart"],
    "CnBagBaBvbkbebfxbBfbRqemofhbbbEzfbccebbgbbdbbbubDfbFjiGkbBmcbgBpCtBbeeBtBrBjcbDvbbpchckdcbqbbBeB" ++
    "dDllbyBhjcebfwebjbdbxzhlfybgrBqCgCcdbsbhkpqeicccwbhbbdedbqbncbdockbigeccwbhbcbcbcBfebbtdqjbdbwbh" ++
    "bcbfdbsbpcxblicccwbhbcbfdbBecbdpbrbbgddbedcbbbcdcdddmwbCaibdbxbqdbBadcbccBebeibdbxbkbfdbBfcbcpcr" ++
    "jbdbBpcbqbfdidygfsdybjbbchCgBwbcmhCgcbbbfbybbbkbcjbcfbbveBgbClibBkBbfElBrubqgeedbdchdenmbrBmbbfb" ++
    "cBrbMvbechbbbecBpbecBhbechbbbecpbCfbecCpBlqqDicgdXwcrbBafCxdlhsntosonbdpCaBjbebCpDlhBpbbfCskBfBx" ++
    "BecflBseBaCcxjCbDebDpBvriCcBenckBsBaBkBpdkBkcjhBrcdBpebgbcdbfHkCmKscgcBmcgcibbbbbbbBfcCbbhbbddbh" ++
    "decgenfdbhEmbnbqnDxbebckbbcggbbbbbbqceffebrBpDZbIvgedcmBmbbfbcCehbqxjhbhbhbhbhbhbhbhVedzjhfcfeDi" ++
    "efbDmbefBrbDqrBgBwqTsJToCmBGUfCpBucKjdqkcuBvqBfcDcBnjcDzcCmfcbbbfyqbdbebxBdCaoByCkgdbbclBckxzBdh" ++
    "BvBcbqfbkkfbBpxdbiuxdbdBybbdccfcbbbydclhdmgcgcgjhbhbBrbogElBdQNsmxeBxMNcOccEcBmhmffbbkbnbfbbbcbc" ++
    "bEeBhNzsCmcCcBomEmfbFfBkBagBalDldgcgcgcdBjmbBabtbcbpcoBiEtCrCbKhBddBxBvBgnBefBmkBecBkeibfBqGcsBk" ++
    "eBkeBoiCamlbpbhbcblbpbhbcCpLzjwkiygbBqbjCrgcbbBsbcdbcxkxjBfCntbckwkBaCsCegcCmbpebdbBdBqBddBdBjib" ++
    "BcBbCckwktnsEgCvCdBznBznBkNkBqgcDaBdkbiwBqsBuvBbxmCbCfccbnBtBgzBaBkBdbcbiBjdbmBwoevbbbBjsbztcClh" ++
    "bbbebpbkhBvBmicccwbhbcbfdbsbmfGcCbseudBeBwucbbHcBvBpeBkBwubChBrnbCtBbBlhHdBsEmCmBficbcibcbypbbbD" ++
    "qicBnqbbbBcbkBohbvblButbsCvKdjbBlrbBxBeEihbcbBmvbzgbcbBgobMptpbbnbBiEubDbBJmDyEhrHoDXkDtpBPgrgFY" ++
    "vWlMUbVxhBfrDbrBesBwqeBfvftBAmCmEyCxfbConCmcbbBcJCaiBVqBqjNFrebhbcbLfpbBddcboeiPgDKuEdfndjhkIWkD" ++
    "hbCtbccbcccebmbbbhbCnbecibhbBcbebfbbdhbNcczbzbBfbzbBfbzbBfbzbBfbzbiCSyBfggKbCkFqBtkhqbMjBesBsSqB" ++
    "cBDchbebcbpbHpChCqhbBUiebBbbcbbcbbkbebbbbgbebbbbbbdbcbbcbbbbbbbbbbcbbcebhbebebbbkbrfdbfbrGOaCLFc" ++
    "BgGDugIocINqoLBlEPjUwCFyHHzfGFg"),
  (["ideo", "ideographic"],
    "SEwczjodBLdJToCmBFBkBHSiOccEcBSIkbBbJCaiBVqBqjNUlPgBDEiCLFcBgGDugIocINqoLBlEPjUwCFyHHzfGFg"),
  (["joinc", "joincontrol"],
    "MDoc"),
  (["loe", "logicalorderexception"],
    "FKifEtfEDsdcbCCXmccbbc"),
  (["lower", "lowercase"],
    "DtBaBvbkbebBkybibbbbbbbbbbbbbbbbbbbbbbbbbbbbbbbbbbbbbbbbbbbbbbbbbbbbbbbcbbbbbbbbbbbbbbbcbbbbbbbb" ++
    "bbbbbbbbbbbbbbbbbbbbbbbbbbbbbbbbbbbbbbcbbbbdcbbbcbdcebcbddcbcbbbbbcbbcbbcbdbbbcccdgbcbcbbbbbbbbb" ++
    "bbbbbbbcbbbbbbbbbbbbbbbbbccbbbdbbbbbbbbbbbbbbbbbbbbbbbbbbbbbbbbbbbbbbbbbbbbbbbbbbbbbbbbbbhcbccbb" ++
    "ebbbbbbbbCrbBkhcBefDsbBrbbbdbcesbBbBjbcddbbbbbbbbbbbbbbbbbbbbbbbfbbcbccBzBwbbbbbbbbbbbbbbbbbbbbb" ++
    "bbbbbbbbbbbbbjbbbbbbbbbbbbbbbbbbbbbbbbbbbbbbbbbbbbbbbbbbbbbbbbbbbbbcbbbbbbbbbbbbcbbbbbbbbbbbbbbb" ++
    "bbbbbbbbbbbbbbbbbbbbbbbbbbbbbbbbbbbbbbbbbbbbbbbbbbbbbbbbbbbbbbbbbbbbbbbbbbbbbbbbbBwBpEHbBrbeBDgg" ++
    "DFujEpHkCnbbbbbbbbbbbbbbbbbbbbbbbbbbbbbbbbbbbbbbbbbbbbbbbbbbbbbbbbbbbbbbbbbbbbbbbbbbbbbbbbbbbbbb" ++
    "bbbbbbbbbbbbbbbbbbbbbbbbbbbbbbbbbbbbbbbbbbbbbbbbbbbbbbbbbbbbbbjbbbbbbbbbbbbbbbbbbbbbbbbbbbbbbbbb" ++
    "bbbbbbbbbbbbbbbbbbbbbbbbbbbbbbbbbbbbbbbbbbbbbbbbbbbbbbbbbbbbbbbbjigkiiiigkiiiiociiiiiifbcgbddbci" ++
    "ecciikdbcErbnbqnEfbdcdbBbbebebccieebBhqebBGlBaCTqBwbbdcbbbbbbebbcbidbbbbbbbbbbbbbbbbbbbbbbbbbbbb" ++
    "bbbbbbbbbbbbbbbbbbbbbbbbbbbbbbbbbbbbbbbbbbbbbbbbbbbbbbbbbbbbbbbbbbbbbbchbbbebmBmbbfbBTWdbbbbbbbb" ++
    "bbbbbbbbbbbbbbbbbbbbbbbbbbbbbbbbbbbbbtbbbbbbbbbbbbbbbbbbbbbbbbbbdFdbbbbbbbbbbbbdbbbbbbbbbbbbbbbb" ++
    "bbbbbbbbbbbbbbbbbbbbbbbbbbbbbbbbbbbbbbbbbbbbbkbbbbcbbbbbbbbbebbbcbbdbbbbbbbbbbbbbbbbbbbbfbfbbbbb" ++
    "bbbbbbbbbbebbbgbbbbbbbbbydbbbdBFpBrbogDcBEAihmfBOzBaBVhBoFgBkFzlbpbhbcRjbcdbBqbjBXlBzEMfBgBGJwBg" ++
    "BMMkBaBahbsBaBaBaebbbhblBaBaBaBaBaBaBaBaBaBaBaBaBaBaBaBaBaBcBczbgBazbgBazbgBazbgBazbgbbCSykbuggK" ++
    "bCkDHsBi"),
  (["math"],
    "BrbqdBfbBdbbbBtbebBlbBfbBCadcbBaccdUhdJWnbBbdlbdbnboevflfCnnebdcefsbebckbbcggbdcccbdbgdobbCqybgb" ++
    "ceceBgbbgcoKiieucDmbBeBbbbyblhRdcmkegecccdfobbbcglifcCfbbbBdejdMyCmJwTsBwvcgDASqbBFrgbbGgbqdBdbb" ++
    "bBdbbbFbbgeDCIdDhbCtbccbcccebmbbbhbCnbecibhbBcbebfbbdhbNccLgcByIIqebBbbcbbcbbkbebbbbgbebbbbbbdbc" ++
    "bbcbbbbbbbbbbcbbcebhbebebbbkbrfdbfbrCac"),
  (["nchar", "noncharactercodepoint"],
    "DSDcBgUgcDSYocDSYocDSYocDSYocDSYocDSYocDSYocDSYocDSYocDSYocDSYocDSYocDSYocDSYocDSYocDSYoc"),
  (["patsyn", "patternsyntax"],
    "BhpkhBaebbBaeBihbbbcbbbcebebdbxbBfbLUeyipctbkLtBBsGeYgBeBRoTsEyOvdezpbCZQzcKbc"),
  (["patws", "patternwhitespace"],
    "jfsbDwbLYmcyc"),
  (["pcm", "prependedconcatenationmark"],
    "CHcgIhbBxbOucDcbDVXybpb"),
  (["qmark", "quotationmark"],
    "BibebFbbpbLWuizcFIdbRpendDABpeHhbebDmc"),
  (["radical"],
    "RPwBabDlmIg"),
  (["ri", "regionalindicator"],
    "HGOkBa"),
  (["sterm", "sentenceterminal"],
    "BhbmbqbCAbbFrdGybBrdJmbCjbbbdcLhcCPwcBEkbecBDtbHqcHwbfbMccNqeGscccBdcHgcCncBKucjdFGubnbwcQnbBSHw" ++
    "bKkcItbdbOscDicDrbFwcFrdFocJpbBFFibdcGnbmbqbCnbEDwcBXdfBseHhcEneExdEzcgbqcDkcbcEebQbcOjcfpEbcJpd" ++
    "TxbbbJrcDjcQecBAqcCwcBCMbcFdbCnclbBGtbBDOgbLImb"),
  (["sd", "softdotted"],
    "EbcHobKvbBebCabubMibDubbbJMnbBzbnbdbFcbGbbQfbIgcEGgbGELhcBycBycBycBycBycBycBycBycBycBycBycBycDFy" ++
    "bLtcBab"),
  (["term", "terminalpunctuation"],
    "BhbkbbblcdbBFybibTtbCfbCubobbdGybBrlbbJbcCcpBfbKbcBWucGqbegLzcBEjiBDtbEudCtcGbddbBneccMccNqeGscb" ++
    "dBdcHgfCkcBKucjdFGubnbebkbbcdcQmcBSHvcKjdItfOscDicDrbFvdFrdExbqcJpbBFFgdbeGnbkbbblcdbCnbcbBPqbBw" ++
    "bBSobHrbLycFwgCqgDleBKqfBseHhhEieExdEzcgbqcDkfEebQbdmcNuedpEbcJpdTxbbbJrcDjcecPydBtbYvcCwcBYxfBA" ++
    "MzcFdbCndkbBGscBDOgbLIle"),
  (["uideo", "unifiedideograph"],
    "TSaJToCmBFBkBICscbbbckbbbbccdDVEcCLFcBgGDugIocINqoLBlHQdHHzfGFg"),
  (["upper", "uppercase"],
    "CnBaDxxbhBhbbbbbbbbbbbbbbbbbbbbbbbbbbbbbbbbbbbbbbbbbbbbbbbbbbbbbbbcbbbbbbbbbbbbbbbcbbbbbbbbbbbbb" ++
    "bbbbbbbbbbbbbbbbbbbbbbbbbbbbbbbbbcbbbbdcbbbcbdcebcbddcbcbbbbbcbbcbbcbdbbbcdbhbcbcbcbbbbbbbbbbbbb" ++
    "bbcbbbbbbbbbbbbbbbbbcbcbbdbbbbbbbbbbbbbbbbbbbbbbbbbbbbbbbbbbbbbbbbbbbbbbbbbbbbbbbbbbhcbccbbebbbb" ++
    "bbbbLdbbbdbibgbbdbbbcbrbjBjbcddbbbbbbbbbbbbbbbbbbbbbbbfbcbbccBzBwbbbbbbbbbbbbbbbbbbbbbbbbbbbbbbb" ++
    "bbjbbbbbbbbbbbbbbbbbbbbbbbbbbbbbbbbbbbbbbbbbbbbbbbbbbbbbbcbbbbbbbbbbbbcbbbbbbbbbbbbbbbbbbbbbbbbb" ++
    "bbbbbbbbbbbbbbbbbbbbbbbbbbbbbbbbbbbbbbbbbbbbbbbbbbbbbbbbbbbbbbbbbbbbbbcBmEHdBmbbfbBBuDiDGsBrcdMi" ++
    "bbbbbbbbbbbbbbbbbbbbbbbbbbbbbbbbbbbbbbbbbbbbbbbbbbbbbbbbbbbbbbbbbbbbbbbbbbbbbbbbbbbbbbbbbbbbbbbb" ++
    "bbbbbbbbbbbbbbbbbbbbbbbbbbbbbbbbbbbbbbbbbbbbbbbbbbbbbjbbbbbbbbbbbbbbbbbbbbbbbbbbbbbbbbbbbbbbbbbb" ++
    "bbbbbbbbbbbbbbbbbbbbbbbbbbbbbbbbbbbbbbbbbbbbbbbbbbbbbbbjiigkiiiiglbbbbbbbiiCuemememfleKcbebddcdc" ++
    "bdfgbbbbbbecekcfbBaqtbBFmBaCSuBwBwbbdcbbbbbbebbcbidbbbbbbbbbbbbbbbbbbbbbbbbbbbbbbbbbbbbbbbbbbbbb" ++
    "bbbbbbbbbbbbbbbbbbbbbbbbbbbbbbbbbbbbbbbbbbbbbbbbbbbbbibbbebBTYjbbbbbbbbbbbbbbbbbbbbbbbbbbbbbbbbb" ++
    "bbbbbbbbbbbbtbbbbbbbbbbbbbbbbbbbbbbbbbbbFfbbbbbbbbbbbbbdbbbbbbbbbbbbbbbbbbbbbbbbbbbbbbbbbbbbbbbb" ++
    "bbbbbbbbbbbbbbbbbbbbbkbbbbcbbbbbbbbebbbcbbbdbbbbbbbbbbbbbbbbbbbbfbfbbbbbbbbbbbbbbbebbgbfbbbBcbBH" ++
    "AhBaBUzBoFgBkGalbpbhbcCQcBzENlBgBGJwBgBMMqBaBaBaBaBaBabbccbcccebiBaBaBacbecibhBbcbebfbbdhBbBaBaB" ++
    "aBaBaBaBaBaBaBaBaBezBhzBhzBhzBhzBhbGNlBiDBiBagBagBa"),
  (["vs", "variationselector"],
    "JCtdbbDJCaqBWNKyJg"),
  (["wspace", "whitespace", "space"],
    "jfsbDwbBabIHjbDPnlBdcfbBvbFXwb"),
  (["xidc", "xidcontinue"],
    "BwkhBaebbBaBvbkbbbcbfxbBfbRqemofhbbbrEnbcddbbgfbbbubDfbFjbfcGkbBmcbgBpiBtbbbcbcbbiBbeeBdlfCweDyb" ++
    "ickbtcbqChcDxoCcebcbcBusBcelfybgjCwbEzckbtbicccwbhbbdecjccceibecbfcmkbbbcdbgeccwbhbcbcbccbbfeccd" ++
    "dbhebbhqldbjbdbwbhbcbfckbdbdcbpeckjhbdbicccwbhbcbfcjcccdhdecbfckbbqcbgddbedcbbbcdcdddmefddbecbgb" ++
    "okqnbdbxbqcjbdbehcbdcbceckqebibdbxbkbfcjbdbehcgcbeckbdmnbdbBzbdbffehfckkgbdbsdybjbbchdbegbbbigkc" ++
    "cnCgfpbkBncbbbfbybbbxcfbbbhbkceBgbxcgklbbbbbekbBkeubsbBkjbCfCwgDacBmbbfbcBrbMvbechbbbecBpbecBhbe" ++
    "chbbbecpbCfbecCpcdjjoqqDicgdXwcrbBafCxdlhwjwlumnbdbcmDgdbecckBhdblgDlhBrfCskBfbmemkBocflBseBaglB" ++
    "lBceClbBdclgknbiobqBxCzdkrjmEmmCeikdBxcjhBrcdqdbBnfUocgcBmcgcibbbbbbbBfcCbbhbbddbhdecgenfdbhCoct" ++
    "bBcbnbqnBznebdmrbebckbbcggbbbbbbqceffebrBpDZbIvgjmBmbbfbcCehbpyjhbhbhbhbhbhbhbhbBgTxdzpbfcfeDicc" ++
    "cdbDmbefBrbDqrBgBwqTsJToCmBGUfCpBucKjdBcuBwekbElBljcDzcCmfcbbbfyCcebtCamCskkgydbbBxcBkmBddCnolgB" ++
    "fbCdjockgxdCvydcqcfkgcgcgjhbhbBrbogEtbcckgQNsmxeBxMNcOccEcBmhmffmbnbfbbbcbcbEeBhFjgIksCmcCcBokgq" ++
    "qqdcydBhbbbdbbbbbbbbEwtkhBaebbBalDldgcgcgcdBjmbBabtbcbpcoBiEtCrCbFgbFaBddBxpbBfBgnBefBrfBecBkeib" ++
    "fBqGcckgBkeBkeBoiCamlbpbhbcblbpbhbcCpLzjwkiygbBqbjCrgcbbBsbcdbcxkxjBfCntbckwkBaCsCegcCmebcfibdbB" ++
    "dcdebBgBddBdBjibBezCckwktnsEgCvCdBznBznBoikMoBqbcdcCxBgkbiBhBfwBqvBbxjCtBfqjCihbnzhkgCbbkeeiBkcb" ++
    "jCreebnbbBjsbBlgeCkhbbbebpbkhChfkgebicccwbhbcbfbkcccdcbgbfhchdfFjCxfkeeBeCsbbikGkCccjxgBiCndblkB" ++
    "mCfhkCcBbcpekghHdChDxCwvicbcibcbBebccjmkCsicBucibcBbClibiCwdbsCvKdjbBtbjpkyBecwboCvhbcbBsdbbcbji" ++
    "kggbcbBlbcbghkLyxjrbBpdfnkDibDbBJmDyEhrHoDXkDtpBPgqwFYgWlMUbVxhBfbkgDbbkgBecflCdjemkjvftBAmCmEyC" ++
    "xeCfhrCmcbclcoJCaiBVqBqjNFrebhbcbLfpbBddcboeiPgDKuEdfndjhkdcGYzBucxUwfdgiichBeeFsdRbDhbCtbccbccc" ++
    "ebmbbbhbCnbecibhbBcbebfbbdhbNcczbzbBfbzbBfbzbBfbzbBfbzbicByTsCdeByibobwfbpBQmBfggIfhbrchbcbffCkB" ++
    "hbEiBtdockebMjBfrCgScBqBCohbebcbpbHplhBpCyekBTuebBbbcbbcbbkbebbbbgbebbbbbbdbcbbcbbbbbbbbbbcbbceb" ++
    "hbebebbbkbrfdbfbrFAakBNqCLFcBgGDugIocINqoLBlEPjUwCFyHHzfGFgBONHgJg"),
  (["xids", "xidstart"],
    "CnBagBaBvbkbebfxbBfbRqemofhbbbEzfbcddbbgbbdbbbubDfbFjiGkbBmcbgBpCtBbeeBtBrBjcbDvbbpchckdcbqbbBeB" ++
    "dDllbyBhjcebfwebjbdbxzhlfybgrBqCgCcdbsbhkpqeicccwbhbbdedbqbncbdockbigeccwbhbcbcbcBfebbtdqjbdbwbh" ++
    "bcbfdbsbpcxblicccwbhbcbfdbBecbdpbrbbgddbedcbbbcdcdddmwbCaibdbxbqdbBadcbccBebeibdbxbkbfdbBfcbcpcr" ++
    "jbdbBpcbqbfdidygfsdybjbbchCgBwbbnhCgcbbbfbybbbkbbkbcfbbveBgbClibBkBbfElBrubqgeedbdchdenmbrBmbbfb" ++
    "cBrbMvbechbbbecBpbecBhbechbbbecpbCfbecCpBlqqDicgdXwcrbBafCxdlhsntosonbdpCaBjbebCpDlhBpbbfCskBfBx" ++
    "BecflBseBaCcxjCbDebDpBvriCcBenckBsBaBkBpdkBkcjhBrcdBpebgbcdbfHkCmKscgcBmcgcibbbbbbbBfcCbbhbbddbh" ++
    "decgenfdbhEmbnbqnDxbebckbbcggbbbbbbqceffebrBpDZbIvgedcmBmbbfbcCehbqxjhbhbhbhbhbhbhbhVedzjhfcfeDi" ++
    "gdbDmbefBrbDqrBgBwqTsJToCmBGUfCpBucKjdqkcuBvqBfcDcBnjcDzcCmfcbbbfyqbdbebxBdCaoByCkgdbbclBckxzBdh" ++
    "BvBcbqfbkkfbBpxdbiuxdbdBybbdccfcbbbydclhdmgcgcgjhbhbBrbogElBdQNsmxeBxMNcOccEcBmhmffbbkbnbfbbbcbc" ++
    "bEeBhFjgIksCmcCcBokEpbbbdbbbbbbbbEwBkBagBalCecBfdgcgcgcdBjmbBabtbcbpcoBiEtCrCbKhBddBxBvBgnBefBmk" ++
    "BecBkeibfBqGcsBkeBkeBoiCamlbpbhbcblbpbhbcCpLzjwkiygbBqbjCrgcbbBsbcdbcxkxjBfCntbckwkBaCsCegcCmbpe" ++
    "bdbBdBqBddBdBjibBcBbCckwktnsEgCvCdBznBznBkNkBqgcDaBdkbiwBqsBuvBbxmCbCfccbnBtBgzBaBkBdbcbiBjdbmBw" ++
    "oevbbbBjsbztcClhbbbebpbkhBvBmicccwbhbcbfdbsbmfGcCbseudBeBwucbbHcBvBpeBkBwubChBrnbCtBbBlhHdBsEmCm" ++
    "BficbcibcbypbbbDqicBnqbbbBcbkBohbvblButbsCvKdjbBlrbBxBeEihbcbBmvbzgbcbBgobMptpbbnbBiEubDbBJmDyEh" ++
    "rHoDXkDtpBPgrgFYvWlMUbVxhBfrDbrBesBwqeBfvftBAmCmEyCxfbConCmcbbBcJCaiBVqBqjNFrebhbcbLfpbBddcboeiP" ++
    "gDKuEdfndjhkIWkDhbCtbccbcccebmbbbhbCnbecibhbBcbebfbbdhbNcczbzbBfbzbBfbzbBfbzbBfbzbiCSyBfggKbCkFq" ++
    "BtkhqbMjBesBsSqBcBDchbebcbpbHpChCqhbBUiebBbbcbbcbbkbebbbbgbebbbbbbdbcbbcbbbbbbbbbbcbbcebhbebebbb" ++
    "kbrfdbfbrGOaCLFcBgGDugIocINqoLBlEPjUwCFyHHzfGFg")]

/-- The code points of every binary property. -/
def tables : Array Table :=
  packed.map fun property => ranges property.2

def named? (name : String) : Option Nat :=
  packed.findIdx? (·.1.contains name)

def holds (property : Nat) (c : Char) : Bool :=
  match tables[property]? with
  | some table => table.covers c.toNat
  | none => false

end Binary

end Unicode

end PathSchema
