import PathSchema.Unicode.Table

/-!
# Case folding

Characters that differ only in case have the same folding.  The table lists runs
of characters that fold by the same distance; all others fold to themselves.
-/

namespace PathSchema

namespace Unicode

namespace CaseFolding

/-- A run of characters that fold alike: its first character, how many there are,
the step from one to the next, and the signed distance to the folding. -/
structure Run where
  first : Nat
  count : Nat
  stride : Nat
  distance : Int

/-- The runs in ascending order; a distance is packed with its sign in the last bit. -/
def table : List Run :=
  let rec go : Nat → List Nat → List Run
    | previous, gap :: count :: stride :: packed :: rest =>
      let distance : Int := if packed % 2 = 0 then packed / 2 else -(packed / 2 : Nat) - 1
      ⟨previous + gap, count, stride, distance⟩ :: go (previous + gap) rest
    | _, _ => []
  go 0 (numbers <|
    "CnBabCmEmbbCHqlxbCmyhbCmBoyccBydcchiccrxccBubbJhbdccgbbUpcbbQebcccebbPwbbbcccbPucbbcdbbGcbbbPobb" ++
    "bPqbbbccbbPubbbPycbbQgbbbQcbbbcebbQgbbbQkcbbQmbdccgbbQubbbccbbQudbbccbbQubbbcccbQsccccebbQwbbbce" ++
    "bbcibbebbbccbbebbbccbbebjcctjcctbbebcccebbHlbbbEhbuccBobbJzcjccybbBFYkbbbccbbMnbbbBFYedbbccbbOzb" ++
    "bbFibbbFmbfccJvbbIyBrcccgbbcjbbIyhbbCycdbCwebbEyccbEwdrbCmsjbCmBfbbcnbbqbbbChbbbBxebbBdbbbBrcmcc" ++
    "ybbEdbbbDrdbbEpbbbExcbbccbbnbbbcddbJzdqbGeqBgbCmDcrccBqBbccCcbbBebhccpBwccDtBmbDsEIpBmbVMuBnbbVM" ++
    "ugbbVMuBFfgbpDGabbSKpbbbSKnbbbSJvbcbSJrcbbSJtbbbSJfbbbSHjbbbEAIwiBrbIXjBtdbIXjMlCxccFzbbEldbbWNt" ++
    "cBwccEaibpqgbpqibpqibpqgbprecppibpBgibpqibpqibpqcbpccbFrcbbrcbbVFtkebGpebbrmcbpccbHrocbpccbIpcbb" ++
    "nmcbJvccbJrcbbrLmbbWGfebbYUvbbbYLnhbbCeBuqbBgBjbbcBFnBabCaCTuBwbDsDsbbccbbBFUjbbbLHjbbbBFTdddccg" ++
    "bbBFXfbbbBFUvbbbBFXlbbbBFXjcbbcdbbcjcbBFZxcByccEdccchbbcBTYkxccCmoccGghccqBfccCtcccebbEANvbfccnb" ++
    "bccbbEVChdcccgkccubbEVElbbbEVFhbbbEVEzbbbEVEfbbbEVElcbbEVApbbbEVClbbbEVAvbbbCTkbiccqbbDrbbbEVEjb" ++
    "bbEARvbcccjbbcgcccBfbbcBIhDcbEKZnBFSbBabCmBVzBobDcGuBkbDcHklbDampbDaqhbDaicbDaCQeBzbEyEPkBgbCmBG" ++
    "LcBgbCmBUMqBibCq")

/-- Whether a run holds a code point. -/
def Run.covers (run : Run) (n : Nat) : Bool :=
  run.first ≤ n && (n - run.first) % run.stride == 0 && (n - run.first) / run.stride < run.count

def fold (c : Char) : Char :=
  match table.find? (·.covers c.toNat) with
  | some run => Char.ofNat ((c.toNat : Int) + run.distance).toNat
  | none => c

/-- The characters that fold to a given one, itself apart. -/
def foldingTo (target : Char) : List Char :=
  table.filterMap fun run =>
    let source := ((target.toNat : Int) - run.distance).toNat
    if run.covers source then some (Char.ofNat source) else none

/-- All characters with the same folding as `c`, itself included. -/
def variants (c : Char) : List Char :=
  fold c :: foldingTo (fold c)

end CaseFolding

end Unicode

end PathSchema
