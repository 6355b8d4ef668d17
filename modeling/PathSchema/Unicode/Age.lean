import PathSchema.Unicode.Table

/-!
# Ages

The age of a code point is the number, in `names`, of the edition of the standard
that first assigned it.
-/

namespace PathSchema

namespace Unicode

namespace Age

/-- The names of the editions, oldest first. -/
def names : Array (List String) :=
  #[["1.1", "v11"], ["2.0", "v20"], ["2.1", "v21"], ["3.0", "v30"], ["3.1", "v31"], ["3.2",
    "v32"], ["4.0", "v40"], ["4.1", "v41"], ["5.0", "v50"], ["5.1", "v51"], ["5.2", "v52"],
    ["6.0", "v60"], ["6.1", "v61"], ["6.2", "v62"], ["6.3", "v63"], ["7.0", "v70"], ["8.0",
    "v80"], ["9.0", "v90"], ["10.0", "v100"], ["11.0", "v110"], ["12.0", "v120"], ["12.1",
    "v121"], ["13.0", "v130"], ["14.0", "v140"], ["15.0", "v150"]]

def named? (name : String) : Option Nat :=
  names.findIdx? (·.contains name)

/-- The ages of all code points; what is not assigned is younger than every edition. -/
def table : Table := runs <|
    "TiaedBeaidbfbgsddglhoiDlafdcgBvabdkafdrgCsajdbfigfhdgcabdnfejcacjczbadibabpezhabzbabzuabzBsabjha" ++
    "bdcfbabdbabdbabdbabdsacebffgehbdmabdCoabdmabdBpabjcdcfedCbacfcacfcacfbiBcacdiachcagiqfeiqjckclip" ++
    "bzBmaczhabtBnabtbabdczcpbmbzrbbhnbkabijabbdhizBbaezbtfalzegbmbpfjbhbajgfjbabobxbhbablBaafjtadddg" ++
    "ghbloacfCuacdfabdpabdBeacgkafdbgodbzBeddgBbdczdgBehsjBxdbfozChiczdtBukczpkbzBclczblbzlsfzBfxbzcx" ++
    "gzixbmbplmgpcqbxirkwlxbtprbqBbmbpbkdabgCbaclsabkblfabkclzacjflbpckcibhcibpdabziaczcaczwabzhabzba" ++
    "dzeaczbabghaczcaczdabhizbaezcabzfaczvabkcsbtczbgbabgbzgaezcaczwabzhabzcabzcabzcaczbabzfaezcaczda" ++
    "dzbjhzeabzbahzpabjbtkzdabzhabgbabzdabzwabzhabzcabzfaczkabzdabzdaczbapzbadgczkabmbghzbqgsbzdabzia" ++
    "czcaczwabzhabzcabzbgeacziabjczcaczdahzbwcaezcabzdacjczlabgglkzcabzgadzdabzeadzcabzbabzcadzcadzda" ++
    "dziabhdaezfadzdabzeaczbjgzbaozbhmaigfzbpdabtiabzdabzxabzkabpfaczbxbjhabzdabzeahzcabzcjbqczbxczca" ++
    "cjczkahzbuijbrbpcabtiabzdabzxabzkabzfaczcghabzdabzeahzcagzbxbabzcaciczkabzcibymzbsbpcabwiabzdabz" ++
    "xablqablcsbjgabjbzdabzeablbrezdrbahrbqcacjczkagjdrhjbzbwcdbzsddzydbzjdbzbdczhddzbdezgdbzbdbzidgz" ++
    "kpczddmzCgaezBdaBlzcabzbabzbucabubabzbubagueabuhabudabzbabzbacucabunabudaczfabzbabzgabybzkaczcac" ++
    "mBgzCubbzBhbbdcjezBbbelgbbdbbbzvbddhbbdbbddbzpdbzbjbdchdjekclBlzBidbjfdbjcdbjhddjedgjBadCmjekcjB" ++
    "mabzbmfzbmczBnacfchbabhdmDmafkCqafkDeagkhdbhCldbhbdbzedczhdbzbdbzedczBndbhbdbzedczBfdbhbdbzedczh" ++
    "dbzbdbzedczhdbhhdbzxdbhBfdbhbdbzedczhdbhBndbhtdczclchBcddzBahgzDhdbqczgqczbkYgdjkBdddzDddiphznfb" ++
    "xhfbxjzbxxfjzufmznfbzdfbzcfmzDpdbgczkdgzkggzpdbxkdgzDkdbthzBqdbjfzCskkzBdgcpbzmgezmgezbgdzBqgczf" ++
    "glzBqhckezBahgzkhbkdzchBggBchczchClkbzBdkczlkgzkkgzokczppcwoxBxzCyibxdzBticxbzBrjdmmjgmCalizelCe" ++
    "jdzpjdzBzjjrhzBrtczdtimizBjkembscpbufzEegDkhhiBcjppesbxbrblbkciFzabbejDmagjwaczgaczBmaczgacziabz" ++
    "babzbabzbabzBfaczCbabzpabzoaczgabztaczdabzjabzBvabdxabfgdffcgchbfhhffbjbzeohabfczBbabzfhildzlabb" ++
    "bcddcfehdkblbndpbqbsbxpzsacdhfbheibjpzCfacdbgbhpfbhcibjdkBwabdbiejbkcqezDnajdmfJiaofbabdErabdbfB" ++
    "edCafcglhmibkllhperbsBlacdzzlavzFjaufbgFuakfDcaidifuacgcfbhbdDiacdmfchkfiglhbjckcgqhbikjdkejkkbl" ++
    "tkblbkelykbpeableaclBcablBjablbableadlbabkhaclhaofBfadlyabloablhheibmbjbmclBcfejqfJwdTsfogghhifj" ++
    "eiBpjdpfjfkBapczBgpbzbwBipdtmpbuipbszteqptbuBvhbxBvhbxnidjbkdjeigjckEdhhkcmfzBthbzbmfzbmczCchcmh" ++
    "zbhblozblxhjzhhbzhhbzhhbzhhbzhhbzhhbzhhbzhhbzBgjyhejchtjbkkmhpcrfsftbudwlxBizBadbzDldmzIgdBazmde" ++
    "zCeadddfbdbabzDgacfczgacfDqabffzBoabjbsbtbzDqabzqayddlfwqhujmzqfBdacgbzBkamkbgpfBcacgbhByapfmaeg" ++
    "BvabvEpaegDvacgBfabgJTedkwCmgBEXyawhijikbmjqvsftnwdxBSvddzsdcfqdbfmdbfddbfbdjzBwkLojuzBgjclsjimB" ++
    "cjgpbqbmDkkizxheifjciEdjclbqclcmmpklbmdpbrbtcpgqctgucxfuewfzcxbzbxbzfxyzdxcwbpcmblfjBshbwdzkkgzC" ++
    "eiizCrjbrizmjgzBckcqctDgjlzbjBdkdzDakbzlkezckBfpbzCdjjzojczkjczejBckepCpkyzfkxmkzglczglczgljzhlb" ++
    "zhlbzBwpeqcpcuewezDcqBukczkkgzQNsbmzxkezBxkezDAubJXuacmChfdkczEchBmzhamzfafzbdzabzfabzbabzcabzca" ++
    "bzEeaqlbxqzObaqxCmaczCcahzbxBgemabfbgcxqfkhgzeadjhpcqvacfcgkabztabzeaezdabfbabzFfaczbabzDqacfDqa" ++
    "dzgaczgaczgaczdadzhabzhakzddbcdamgbzBagbztgbzcgbzpgczogBizEtgfzdgezBtgdzjgCxhcpcrbzmjbwdzbpBvzBu" ++
    "jFazBdjdzBxjpzBcpezBfebpeejzdsBbefzBrpfzBegbzbgBkhezohBqzBmecgBmeDcgczkggzBkrezBkrezBopizCaplzbp" ++
    "lxbzpxbzhxbzcxbzlxbzpxbzhxbzcxCpzLzpjzwpkzipyzgxbzBqxbzjxCrzggczbgbzBsgbzcgdzbgczbgwkbzjkClpizjp" ++
    "BwztqbzcqfzfqBaickdzbiBajfzbjCmzCemezcqcmqqczBuqehbzchfzihbzdhbzBbhctczdhezjhbthzjhhzBgkBgpBgzBn" ++
    "pezmpjzCckdzBdkczBbkfziksphzepmzhpDczCvkCdzBzqnzBzqhzgqBotizktLizBfkbzBqwbzdwczcwCxzdyBotizBqtwz" ++
    "BaxBmzBcwuzxujzDalezBelgxjzbpCokbxkzbtczzmhzkmgzCbmbzomdtbwizBnpjzCvmeqbpcwkmbpfqbzuplzspbzBrpbr" ++
    "dyCkzhqbzbqbzeqbzpqbzlqgzChpfzkpgzbqdpbzipczcpczwpbzhpbzcpbzfpbzbtjpczcpczdpczbqgzbpfzhpczhpdzfp" ++
    "FjzDmrbwbrbzbrbtbucwBezCupizkpGkzCcpczspuqBizCrplzkpgznrtzCembubxgzkmCczBaqbtczpqezqqhxHdzCitDwz" ++
    "DfpmzbphwczbwcziwbzcwbzBewbzcwczmwjzkwCsziuczBuuczluBbzCusizCascuxsbtfsnzqxCfphzkyJmzjrbzBtrbzor" ++
    "kzBdrdzBgrczwrbzorCvzhsbzcsbzBssdzbsbzcsbzjsizksgzgtbzctbzBltbzctbzgthzktLyzzthzrybzBpydzBcyDizb" ++
    "wpzByunzbuBHviBqpbqDyzDvimpbzeibplzHoqDXkzDvxnzBPfkbyjuBdyFYgzWlqMUbzVxlhzBfpbzkpezcpDbxbzkxgzBe" ++
    "pczgpkzCspkzkpbzhpbzvpfztpBAmzDntDxzCrmguezbuBvmjuhzrmCmzbrbscubwlzcwozJBprftguizBDbrSpwBqzjwNFr" ++
    "zexbzhxbzcxbzclKzsexpzbyBdzduczbyozeuizPgsDKuzEdpfznpdzjphzkpczipGYuzBuxczxxjzEmxCizJmekzBneczbj" ++
    "GyelqcxvzCshEszuymzutmzDjgjzsihtFfzDhebzCtebzceczbeczceczeebzmebzbebzeebgcebzCnebzeecziebzhebzBc" ++
    "ebzeebzfebzbedzhebzNaechczLeeciczByeZcqpzfqbzpqBQmzBfxgzgyIfzhrbzrrczhrbzcrbzfrfzCkyBhzbyEizBtud" ++
    "zouczkuezcuMizBfxrzCgufzbuRwzBqyBCozhxbzexbzcxbzpxbzHppczqpBpzCxrbuezkrezcrBEfzCqtCyzCjuHmzembzB" ++
    "bmbzcmbzbmczbmbzkmbzembzbmbzbmgzbmezbmbzbmbzbmbzdmbzcmbzbmczbmbzbmbzbmbzbmbzbmbzcmbzbmczembzhmbz" ++
    "embzembzbmbzkmbzrmfzdmbzfmbzrmCazcmKkzBsjezDwjmzplczolbpbzplbzplwpkzlkcpdwBfkbtblbkllbkblbkclbkd" ++
    "lbkdlfkilbkhlbkklcmbudwjlbkblckclbkklekclbkklsrbwCezBalbkclnzBikjlbrezjkhzclozgsFyzBhlmpdqglbpCs" ++
    "lbpcqulmpBllbpflepfqmprlhpiqCllbpblbpHalbpelcpbqCklcpemhpfqylspbrBppbrDipflbmqlbmdlbmblbmblbmblb" ++
    "mdlbmglcmelbmblcmelbmmlcpcqllBwpCslkpbqcrcsbucwezbydxnpdzepdrcsbtbucwdzEmldyezfyDhpetbygzmuezbxp" ++
    "zmpezCepizkpgzBopizBepczcwDazmsbwdujqgrbsirisbrcsmrbumrbsdtprnsftbubwetcwbxbtbuetfqnrgsltcwgudwc" ++
    "uktgubqctiubwbxduxsztDgumzotczeubwdyducxdzduewcyhzgutwexdyhwexdybzbydwdxizcyhwdxcyezixbyhzhxcyhz" ++
    "FrwbzCdwBlzkwBNozcbCLEtehwcxBgzGDpkexbygzIolczINqqozLBlsEPjzUweCFwzcbHHzwfzGFgyDFLezcbDSYozcbDSY" ++
    "ozcbDSYozcbDSYozcbDSYozcbDSYozcbDSYozcbDSYozcbDSYozcbDSYozcbbzbeBezDseEyzJggDSFmzHLXibaz"

def holds (edition : Nat) (c : Char) : Bool :=
  match table.value? c.toNat with
  | some age => age ≤ edition
  | none => false

end Age

end Unicode

end PathSchema
