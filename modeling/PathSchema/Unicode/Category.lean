import PathSchema.Unicode.Table

/-!
# General categories

Every code point has exactly one general category; a group such as the letters
is a list of categories.
-/

namespace PathSchema

namespace Unicode

inductive Category where
  | uppercaseLetter | lowercaseLetter | titlecaseLetter | modifierLetter | otherLetter
  | nonspacingMark | spacingMark | enclosingMark
  | decimalNumber | letterNumber | otherNumber
  | connectorPunctuation | dashPunctuation | openPunctuation | closePunctuation
  | initialPunctuation | finalPunctuation | otherPunctuation
  | mathSymbol | currencySymbol | modifierSymbol | otherSymbol
  | spaceSeparator | lineSeparator | paragraphSeparator
  | control | format | surrogate | privateUse | unassigned
  deriving DecidableEq

namespace Category

/-- All categories, in the order in which the table numbers them. -/
def all : Array Category :=
  #[uppercaseLetter, lowercaseLetter, titlecaseLetter, modifierLetter, otherLetter,
    nonspacingMark, spacingMark, enclosingMark,
    decimalNumber, letterNumber, otherNumber,
    connectorPunctuation, dashPunctuation, openPunctuation, closePunctuation,
    initialPunctuation, finalPunctuation, otherPunctuation,
    mathSymbol, currencySymbol, modifierSymbol, otherSymbol,
    spaceSeparator, lineSeparator, paragraphSeparator,
    control, format, surrogate, privateUse, unassigned]

/-- The category numbers of all code points. -/
def table : Table := runs <|
    "BgzbwdrbtdrbnbobrbsbrbmcrkicrdscrBaabnbrbobublbuBabbnbsbobsBhzbwbretbvbrbubvbebpbsbBabvbubvbsckb" ++
    "ubbcrbubkbebqdkbrxabshaybbsibbabbbabbbabbbabbbabbbabbbabbbabbbabbbabbbabbbabbbabbbabbbabbbabbbab" ++
    "bbabbbabbbabbbabbbabbbabbbabbbabbbabbbabbbacbbabbbabbbabbbabbbabbbabbbabbbacbbabbbabbbabbbabbbab" ++
    "bbabbbabbbabbbabbbabbbabbbabbbabbbabbbabbbabbbabbbabbbabbbabbbabbbabbbabbcabbbabbbadbcabbbabbcab" ++
    "bdacbeabbcabbdadbcabbcabbbabbbabbcabbbacbbabbcabbdabbbabbcacbbebadbeebabcbbbabcbbbabcbbbabbbabbb" ++
    "abbbabbbabbbabbbabbbacbbabbbabbbabbbabbbabbbabbbabbbabbbacbbabcbbbabbdabbbabbbabbbabbbabbbabbbab" ++
    "bbabbbabbbabbbabbbabbbabbbabbbabbbabbbabbbabbbabbbabbbabbbabbbabbbabbbabbbabbbabbbabbbabbbahbcab" ++
    "bcacbbabbeabbbabbbabbbabbbaCrbbeBbbsdeumdoufdhubdbubdruEifbabbbabbbdbubabbcBdbddbbrbaeBdcubabrda" ++
    "bBdbabBdcabbrabBdjaBjbbacbdadbbabbbabbbabbbabbbabbbabbbabbbabbbabbbabbbabbbafbbabbbsbabbcacbBzaB" ++
    "wbbabbbabbbabbbabbbabbbabbbabbbabbbabbbabbbabbbabbbabbbabbbabbbabbbabbbvffchbabbbabbbabbbabbbabb" ++
    "babbbabbbabbbabbbabbbabbbabbbabbbabbbabbbabbbabbbabbbabbbabbbabbbabbbabbbabbbabbbabbbabbcabbbabb" ++
    "babbbabbbabbbabbbacbbabbbabbbabbbabbbabbbabbbabbbabbbabbbabbbabbbabbbabbbabbbabbbabbbabbbabbbabb" ++
    "babbbabbbabbbabbbabbbabbbabbbabbbabbbabbbabbbabbbabbbabbbabbbabbbabbbabbbabbbabbbabbbabbbabbbabb" ++
    "babbbabbbabbbabbbabbbBdBmacBdbdgrBpbbrbmcBdcvbtbBdBtfbmbfbrcfbrcfbrbfiBdBbeeBdeecrlBdgBadscrbtcr" ++
    "cvlfbrbBadrBgebdkevfkiercebfDvebrbehfbBabvgfcdcfbvefcekidecvbeorbBdbBabebfBeeBbfcBdDlelfbeoBdkiB" ++
    "hejfcdbvdrbdcBdbfctweefbdjfbddfbdffcBdprbBdzedfcBdbrbBdlefBdyebugebBdcBagBdifBpebdyfbBaBgfbgCceb" ++
    "fbgbfbedgifegbfcgbehfkecfcrkibrbdpebfcgbBdiecBdcecBdwebBdhebBdbedBdeecBdbfbedgefcBdcgcBdcgbfbeiB" ++
    "dbgeBdcebBddecfcBdkicectgkbvbtbebrbfcBdcfbgbBdgeeBdcecBdwebBdhebBdcebBdcebBdcecBdbfbBddgcfeBdcfc" ++
    "BddfdBdbfhBdeebBdbehBdkicfdebfbrkBdcfbgbBdjebBddebBdwebBdhebBdcebBdfecBdbfbedgffbBdcfbgbBdcgbfcB" ++
    "dbepBdcecfcBdkibrbthBdbegfbBdbfcgbBdiecBdcecBdwebBdhebBdcebBdfecBdbfbebgbfbgefcBdcgcBdcgbfhBdcfb" ++
    "geBdcebBddecfcBdkibvbegkkBdbfbebBdgedBddebBdeedBdcebBdbebBdcedBdcedBddedBdmeeBdcgbfcgdBddgbBddgb" ++
    "fcBdbegBdbgoBdkidkgvbtbvfBdbfdgbfiebBddebBdxebBdqecBdbfbedfegbBddfbBdefhBdcfbBddecBdbecBdcecfcBd" ++
    "kihBdbrhkbvbebfcgbriebBddebBdxebBdkebBdfecBdbfbebgbffgbBdbfcgbBdcgcfhBdcggBdcebBdcecfcBdkibBdceb" ++
    "gmBdcfcgjebBddebBdBpecfbedgefbBddgbBddgbfbebveBddebghkdecfcBdkijkbvgebBdbfcgbBdsedBdyebBdjebBdbe" ++
    "cBdhedBdbfeBddgdfbBdbfbBdiggBdkicBdcgbrmBdBwebfcehfeBdbtgebdifbrkicrBlBdcebBdbebBdfebBdyebBdbebB" ++
    "dkebfcejfbecBdfebBdbdbBdhfbBdkicBdeeBgBdbedvprbvbrdvcfgvkikkbvbfbvbfbvbfbnbobnbocgiebBdBkeeBdofb" ++
    "gffbrcffelfbBdBkfbBdivbfgvbBdcvfrevcrBlBdBrecgefbggfbgcfcgcfbekigrgecgcfeedfbedgcehgdeefnebfcgcf" ++
    "ggbfbebgkidgbfcvBmabBdbafBdbacBdBrbbrbddbMrebBdeecBdhebBdbebBdeecBdBpebBdeecBdBhebBdeecBdhebBdbe" ++
    "bBdeecBdpebBdCfebBdeecBdCpecBddfjrukdBdqekvgBdDiacBdgbcBdbmXwebvbrrebwBaebnbodBdCxedrdjiehBdsedf" ++
    "bgjBdtecfbgcrjBdsecfmBdnebBddebBdcfmBdCaecfbghfigbfcglfdrbddrbtbebfcBdkigBdkkgBdgrbmerdfbBabfkig" ++
    "BdBjebdCbehBdfecfBiebfbefBdCsekBdBfebBddfegcfdgeBdcgbfggdfeBdbvdBdcrkiBeecBdfelBdBseeBdBaegBdkib" ++
    "kdBdBivxecfcgbfcBdcrCbebgbfbghfbBdbfbgbfcgifggkfcBdbfkigBdkigBdhrbdgrcBdofbhqfBxBdefbgBvebfbgffb" ++
    "gbffgbfcgiedBdkihrkvjfjvcrbBdcfbgBeebgefcgcfbgdfcekiBsebfbgcfdgbfbgdfcgiBderBkeigifcgcfdBdfrkidB" ++
    "ddekiBeegdcrjbhBdBracBddairiBddfbrnfbghfeebfgebfcebgcfbefBdBsbCldnbbdBibBldCmfbabbbabbbabbbabbba" ++
    "bbbabbbabbbabbbabbbabbbabbbabbbabbbabbbabbbabbbabbbabbbabbbabbbabbbabbbabbbabbbabbbabbbabbbabbba" ++
    "bbbabbbabbbabbbabbbabbbabbbabbbabbbabbbabbbabbbabbbabbbabbbabbbabbbabbbabbbabbbabbbabbbabbbabbba" ++
    "bbbabbbabbbabbbabbbabbbabbbabbbabbbabbbabbbabbbabbbabbbabbbabbbabbbabbbabbbabbbabbbabbbajbbabbba" ++
    "bbbabbbabbbabbbabbbabbbabbbabbbabbbabbbabbbabbbabbbabbbabbbabbbabbbabbbabbbabbbabbbabbbabbbabbba" ++
    "bbbabbbabbbabbbabbbabbbabbbabbbabbbabbbabbbabbbabbbabbbabbbabbbabbbabbbabbbabbbabbbabbbabbbajbia" ++
    "gbcBdgacBdibiaibiagbcBdgacBdibbBdbabBdbabBdbabBdbaibiaobcBdibicibicibicfbbBdcbeabcbubbdudbbBdcbe" ++
    "abcduebcBdcbeabBdduibfaducBddbbBdcbeabccubBdlwfBagmcrbpbqbncpbqbnbpirbxbyfBabwjrbpbqercldrbsbnbo" ++
    "lrbsbrblkrbwfBabBdkBabkbdcBdgkdsbnbobdkkdsbnbobBdnddBdBhtpBdnfehbfdhmfpBdcvbaevbacvbbdacbdabbbvb" ++
    "acvbsfagvbabvbabvbabveabvbbeabbeebbcvcbcafsbaebbvbscvbbbvqkBjjbabbejbkcveBdfsfvcsevbscvbscvbshvb" ++
    "sBfvcscvbsbvbsBfvKisivbnbobnbouvcshvbnboDdvbsBevzsBovgsCrvzBdlvvBdCikDavwkHbvbsjvbsCcvisEhvbsJov" ++
    "bnbobnbobnbobnbobnbobnbobnboBekBsvfsbnboBfsbnbobnbobnbobnbobnboqsJwvFbsbnbobnbobnbobnbobnbobnbob" ++
    "nbobnbobnbobnbobnboClsbnbobnboBgsbnboJysBwvvscvgsBnvcBdBgvbBdEbvBwaBwbbabbdacbbabbbabbbabbeabbba" ++
    "cbbagbcddabbbabbbabbbabbbabbbabbbabbbabbbabbbabbbabbbabbbabbbabbbabbbabbbabbbabbbabbbabbbabbbabb" ++
    "babbbabbbabbbabbbabbbabbbabbbabbbabbbabbbabbbabbbabbbabbbabbbabbbabbbabbbabbbabbbabbbabbbabbbabb" ++
    "babbbabbbabbbacbgvbabbbabbdfbabbfBderbkcrBmbbBdbbfBdbbcBdCeehBdbdbroBdbfxejBdhebBdhebBdhebBdhebB" ++
    "dhebBdhebBdhebBdhebBdBgfcrbpbqbpbqdrbpbqbrbpbqjrbmcrbmbrbpbqcrbpbqbnbobnbobnbobnbofrbdkrcmerbmbr" ++
    "bnnrcvdrbnbobnbobnbobnbobmBiBdBavbBdDlvmBdIgvBaBdmveBdbwdrbvbdbebjbnbobnbobnbobnbobnbocvbnbobnbo" ++
    "bnbobnbobmbncobvjjefcgbmfdcvdjbdbebrcvbBdDiecBdcfcucdbebmDmebrddbefBdBrebBdDqebBdcvekkvBgeBkvmBd" ++
    "qeBfvbBdkkBevikbvpkBgvkkBnvpkMivJToeCmvBFCfebdBRzedBdCdvjBdBoegdcrKiebddrqekiceuBdbabbbabbbabbba" ++
    "bbbabbbabbbabbbabbbabbbabbbabbbabbbabbbabbbabbbabbbabbbabbbabbbabbbabbbabbbabbbebfdhbrkfbrbdbabb" ++
    "babbbabbbabbbabbbabbbabbbabbbabbbabbbabbbabbbabbbabbcdcfCsekjcfgriBdxujdcubabbbabbbabbbabbbabbba" ++
    "bbbadbbabbbabbbabbbabbbabbbabbbabbbabbbabbbabbbabbbabbbabbbabbbabbbabbbabbbabbbabbbabbbabbbabbba" ++
    "bbbabbbabbbabbbabbbabbbabbbabbbabbbdibbabbbabbcabbbabbbabbbabbbabbbdcubabbbabbbebabbbadbbabbbabb" ++
    "babbbabbbabbbabbbabbbabbbabbbabbfabbfabbbabbbabbbabbbabbbabbbabbbabbeabbbabbfBdbabbbBdbbbBdbbbab" ++
    "bbabbyBdddbabbbecdbbhebfdebfeebfxecgcfbgevbfdBdgkcvbtbvgBdCaeeriBdcgByeqgcfiBdcrkigBdsfgedrbebrc" ++
    "ebfkiBceifcrxelfcglBdbrBdedBddfbgBvebfcgefcgcfdgnrbBdbdkieBdcrfebfbdjekifebBdBpegfcgcfcgcfjBddeb" ++
    "fiebfbgcBdkicBderqebdgedvbebgbfbgByebfbedfcecffecfbebfbeyBdcebdcrlebgcfcgcrbecdbgbfkBdgecBdgecBd" ++
    "gejBdhebBdhebBdBrbbuedjbbdcueBdDcbBjecgbfcgbfcgbrbgbfcBdkigBdQNsemBdxeeBdBxeeBdDAuBbJMeBcOcecBdE" ++
    "ceBmBdhbmBdfbfBdbebfkebsnebBdfebBdbebBdcebBdcebBdEeeruqBdNzebobnqvCmecBdCcehBdbvBgBdmebtdvqfhrbn" ++
    "bobrgBdqfbrcmclbnbobnbobnbobnbobnbobnbobnbobnbocrbnboerdldrbBderbmbnbobnbobnbodrbsbmdsbBdbrbtcre" ++
    "BdfebBdFfecBdbBabBddrbtdrbnbobrbsbrbmcrkicrdscrBaabnbrbobublbuBabbnbsbobsbnbobrbnbocrkebdBtecdBf" ++
    "edBdgecBdgecBdgecBddedBdctbsbubvctbBdbvescvkBddBacvcBdmebBdBaebBdtebBdcebBdpecBdoeBiBdEtefBddreB" ++
    "dBtkdBdjvCbjekrvckdvbBdnvdBdbvBvBdBtvbfFaBdBdedBdBxepBdbfBbkeBdBgeekjBduebjiebjfBdBmefffBdBeebBd" ++
    "brBkeeBdiebrfjBqBdBoaBobDaecBdkigBdBkaeBdBkbeBdBoeiBdCaelBdbrlabBdpabBdhabBdcabBdlbbBdpbbBdhbbBd" ++
    "cbCpBdLzejBdwekBdieyBdgdbBdBqdbBdjdCrBdgecBdbebBdBsebBdcedBdbecBdxebBdbrikxecvhkBfeiBdjkBwBdtebB" ++
    "dcefBdfkwegkdBdbrBaefBdbrCmBdCeeeBdckceqkcBdBukbedfbBdcffBdefeebBddebBdBdecBddfeBdbfjkhBdjrhBdBd" ++
    "eckbrBdedkBgBdiebvBcecfeBdfkhrjBdCcedBdhrwecBdiktefBdiksehBdermBdhkDcBdCveCdBdBzanBdBzbhBdgkBkee" ++
    "fiBdkiLiBdBfkbBdBqebBdcfbmcBdceCxBddfBdekkbeiBdwelfekfrwBdseeferBmBdvehkuBdxejBdbgbfbgCbepfhreBd" ++
    "ukkibfcecfbejBddfbgBtedgefcgcfcrbBaerbfkBdbBacBdzehBdkigBddfBkeffbgifbBdkierbecgbeiBdBjebfcrbejB" ++
    "dcfbgBwedgjfcgeeerefbrbgbfkibebrbedrbBduklBdsebBdzedgdfcgbfbgcfgrbfcebfCkBdhebBdbebBdeebBdpebBdk" ++
    "ebrgBdBvebfdgiffBdkigBdcfcgbBdiecBdcecBdwebBdhebBdcebBdfebBdcfbecgbfegcBdcgcBddgcBdbegBdbgfBdfec" ++
    "gcBdhfdBdffFjBdCbedgifcgdfbgbfeefrkicrbBdbrbfdeBeBdBwedggfbgbfegcfbgcfcebrbeiBdkiGkBdBvedgefcBde" ++
    "gcfbgcfxreecfBiBdBwedgifcgbfbgcfdrbelBdkigBdnrtBdBrebfbgbfcggfbgbfbebrgBdkiCcBdBbecBddfcgefbgffe" ++
    "BdkickdrbvheHdBdBsedgjfbgcfbrDwBdBgaBgbkijkmBdiecBdbecBdiebBdcebBdyeggbBdcgcBdcfbgbfbebgbebgbfdr" ++
    "jBdkiCsBdiecBdBnedgefcBdcfegbfbebrbebgBbBdbekfBoegfbgbeefirbfiBdbegfcgdfBuenfbgcfdrbefrnBdCvehBd" ++
    "krJmBdjebBdBlebghfbBdgfbgbfbefrkBdkitkdBdcrBeecBdwfbBdbghfbgcfbgcfCvBdhebBdcebBdBmegfdBdbfbBdcfb" ++
    "BdhfbebfiBdkigBdgebBdcebBdBgefgbBdcfbBdcgbfbgbfbehBdkiLyBdtecfcgcrhBdcfbebgnebBdBiecgffdBdcgbfbg" ++
    "bfnrkiDiBdbepBdvkivetrvnBdbrBJmeDyBdEhjbBdfrlBdHoeDXkBdDtecrnBdBPgeqBabfgepfFYgBdWleMUbBdVxehBdB" ++
    "febBdkieBdcrDbebBdkigBdBeecBdffbrkBdBwehffrevedbrbvkBdkibBdhkbBdvefBdteBAmBdBgaBgbxkerDxBdCxeeBd" ++
    "bfbeCdghBdefndCmBdcdbrbdbflBdcgoBdJCaeiBdBVqeBqBdjeNFrBdedbBdhdbBdcdbBdLfepBdbeBdBddecBdbeoBdeei" ++
    "BdPgeDKuBdEdefBdnedBdjehBdkecBdbvcfbreBaGYuBdBufcBdxfjBdEmvCiBdJmvkBdBnvcBdCivcgdfdvggiBaifcvhfB" ++
    "evefCjvvBdCovdfbvEsBdukmBdukmBdDjvjBdzkFfBdBaaBabBaahbbBdsbBaaBabbabBdcacBdbacBdcacBdeabBdiaebbB" ++
    "dbbbBdhbbBdlbBaaBabcabBdeacBdiabBdhabBdBabcabBdeabBdfabBdbadBdhabBdBabBaaBabBaaBabBaaBabBaaBabBa" ++
    "aBabBaaBcbcBdzabszbbsgbzabszbbsgbzabszbbsgbzabszbbsgbzabszbbsgbbabbcBdByiTsvCdfevByfivbfovbfcvfr" ++
    "pBdffbBdpfBQmBdkbbeubgBdgbIfBdhfbBdrfcBdhfbBdcfbBdfffBdCkdBhBdbfEiBdBtedBdhfhdcBdkieBdbebvMiBdBe" ++
    "ebfrBdBseefkifBdbtRwBdBbebdefkiBCoBdhebBdeebBdcebBdpebBdHpecBdjkhfBpBdBiaBibhfbdeBdkieBdcrBEfBdC" ++
    "hkbvdkbtekCyBdBtkbvpkHmBdeebBdBbebBdcebBdbecBdbebBdkebBdeebBdbebBdbegBdbeeBdbebBdbebBdbebBddebBd" ++
    "cebBdbecBdbebBdbebBdbebBdbebBdbebBdcebBdbecBdeebBdhebBdeebBdeebBdbebBdkebBdrefBddebBdfebBdreCaBd" ++
    "csKkBdBsveBdDwvmBdpvcBdpvbBdpvbBdBlvkBdnkGfvCeBdBdvnBdBsveBdjvhBdcvoBdgvFyBdJrvfuBCaveBdrvdBdnvd" ++
    "BdEpveBdDrvgBdmveBdbvpBdmveBdCeviBdkvgBdBoviBdBevcBdcvDaBdNcvmBdovcBdnvdBdjvhBdBuvbBdhviBdoveBdj" ++
    "vhBdjvhBdFrvbBdCdvBlBdkiBNqBdCLFceBgBdGDuegBdIoecBdINqeoBdLBleEPjBdUweCFyBdHHzefBdGFgeBOMXlBdbBa" ++
    "BeBdDsBaEyBdJgfDSFoBdDSYoBccBdDSYoBccBdaBd"

def ofChar (c : Char) : Category :=
  ((table.value? c.toNat).bind fun n => all[n]?).getD unassigned

def letters : List Category :=
  [uppercaseLetter, lowercaseLetter, titlecaseLetter, modifierLetter, otherLetter]

def casedLetters : List Category :=
  [uppercaseLetter, lowercaseLetter, titlecaseLetter]

def marks : List Category :=
  [nonspacingMark, spacingMark, enclosingMark]

def numberCategories : List Category :=
  [decimalNumber, letterNumber, otherNumber]

def punctuation : List Category :=
  [connectorPunctuation, dashPunctuation, openPunctuation, closePunctuation,
    initialPunctuation, finalPunctuation, otherPunctuation]

def symbols : List Category :=
  [mathSymbol, currencySymbol, modifierSymbol, otherSymbol]

def separators : List Category :=
  [spaceSeparator, lineSeparator, paragraphSeparator]

/-- Controls, formats, surrogates, private use and what is not assigned. -/
def others : List Category :=
  [control, format, surrogate, privateUse, unassigned]

/-- The categories that a name stands for; names are in small letters, without
blanks, hyphens and underscores. -/
def named? (name : String) : Option (List Category) :=
  match name with
  | "l" | "letter" => some letters
  | "lc" | "casedletter" => some casedLetters
  | "lu" | "uppercaseletter" => some [uppercaseLetter]
  | "ll" | "lowercaseletter" => some [lowercaseLetter]
  | "lt" | "titlecaseletter" => some [titlecaseLetter]
  | "lm" | "modifierletter" => some [modifierLetter]
  | "lo" | "otherletter" => some [otherLetter]
  | "m" | "mark" | "combiningmark" => some marks
  | "mn" | "nonspacingmark" => some [nonspacingMark]
  | "mc" | "spacingmark" => some [spacingMark]
  | "me" | "enclosingmark" => some [enclosingMark]
  | "n" | "number" => some numberCategories
  | "nd" | "decimalnumber" | "digit" => some [decimalNumber]
  | "nl" | "letternumber" => some [letterNumber]
  | "no" | "othernumber" => some [otherNumber]
  | "p" | "punctuation" | "punct" => some punctuation
  | "pc" | "connectorpunctuation" => some [connectorPunctuation]
  | "pd" | "dashpunctuation" => some [dashPunctuation]
  | "ps" | "openpunctuation" => some [openPunctuation]
  | "pe" | "closepunctuation" => some [closePunctuation]
  | "pi" | "initialpunctuation" => some [initialPunctuation]
  | "pf" | "finalpunctuation" => some [finalPunctuation]
  | "po" | "otherpunctuation" => some [otherPunctuation]
  | "s" | "symbol" => some symbols
  | "sm" | "mathsymbol" => some [mathSymbol]
  | "sc" | "currencysymbol" => some [currencySymbol]
  | "sk" | "modifiersymbol" => some [modifierSymbol]
  | "so" | "othersymbol" => some [otherSymbol]
  | "z" | "separator" => some separators
  | "zs" | "spaceseparator" => some [spaceSeparator]
  | "zl" | "lineseparator" => some [lineSeparator]
  | "zp" | "paragraphseparator" => some [paragraphSeparator]
  | "c" | "other" => some others
  | "cc" | "control" | "cntrl" => some [control]
  | "cf" | "format" => some [format]
  | "cs" | "surrogate" => some [surrogate]
  | "co" | "privateuse" => some [privateUse]
  | "cn" | "unassigned" => some [unassigned]
  | "any" => some all.toList
  | "assigned" => some (all.toList.filter (· != unassigned))
  | _ => none

end Category

end Unicode

end PathSchema
