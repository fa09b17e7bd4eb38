import DiskFixture.Text.CaseTable

/-!
Lower case and capitals by the full case mappings of Unicode. One letter may become several, and a
capital sigma that ends a word has a lower-case form of its own.
-/

namespace DiskFixture.Text

/-- The image of `c`: one of the expansions, a member of one of the runs, or `c` itself. -/
def mapCase (expansions : List (Nat × List Nat)) (runs : List CaseRun) (c : Char) : List Char :=
  match expansions.lookup c.toNat with
  | some codes => codes.map Char.ofNat
  | none =>
    match runs.findSome? (·.image? c.toNat) with
    | some code => [Char.ofNat code]
    | none => [c]

def isIn (ranges : List (Nat × Nat)) (c : Char) : Bool :=
  ranges.any fun range => range.1 ≤ c.toNat && c.toNat ≤ range.2

/-- Whether the nearest character of `cs` that is not passed over is a cased letter. -/
def facesCased (cs : List Char) : Bool :=
  match cs.dropWhile (isIn caseIgnorableRanges) with
  | [] => false
  | c :: _ => isIn casedRanges c

/-- The lower-case form of `cs`, where `before` holds the characters in front, nearest first. -/
def lowerFrom (before : List Char) : List Char → List Char
  | [] => []
  | c :: rest =>
    let image :=
      if c = 'Σ' then [if facesCased before && !facesCased rest then 'ς' else 'σ']
      else mapCase lowerExpansions lowerRuns c
    image ++ lowerFrom (c :: before) rest

def lower (text : String) : String :=
  String.ofList (lowerFrom [] text.toList)

/-- `text` with a capital first letter and the rest in lower case. -/
def capitalize (text : String) : String :=
  match text.toList with
  | [] => ""
  | c :: rest => String.ofList (mapCase titleExpansions titleRuns c ++ lowerFrom [c] rest)

example : capitalize "dISK-iMAGE" = "Disk-image" := by decide +kernel
example : capitalize "ßtraße" = "Sstraße" := by decide +kernel

end DiskFixture.Text
