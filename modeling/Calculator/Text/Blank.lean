/-!
# Blank characters

The characters with the Unicode property White_Space, and texts without blank ends. The set is
larger than ASCII white space and smaller than "looks empty": U+200B and U+FEFF are not blank.
-/

namespace Calculator.Text

/-- The first and the last code point of each run of White_Space characters. -/
def blankRanges : List (Nat × Nat) :=
  [(0x09, 0x0D), (0x20, 0x20), (0x85, 0x85), (0xA0, 0xA0), (0x1680, 0x1680), (0x2000, 0x200A),
    (0x2028, 0x2029), (0x202F, 0x202F), (0x205F, 0x205F), (0x3000, 0x3000)]

def isBlank (c : Char) : Bool :=
  blankRanges.any fun (lo, hi) => lo ≤ c.toNat && c.toNat ≤ hi

def dropBlanks (cs : List Char) : List Char := cs.dropWhile isBlank

/-- What is left without the blanks at both ends. -/
def trim (cs : List Char) : List Char :=
  (dropBlanks (dropBlanks cs).reverse).reverse

/-- How many bytes a text takes in UTF-8. -/
def byteLength : List Char → Nat
  | [] => 0
  | c :: cs => c.utf8Size + byteLength cs

@[simp] theorem byteLength_nil : byteLength [] = 0 := rfl

@[simp] theorem byteLength_cons (c : Char) (cs : List Char) :
    byteLength (c :: cs) = c.utf8Size + byteLength cs := rfl

@[simp] theorem byteLength_append (cs ds : List Char) :
    byteLength (cs ++ ds) = byteLength cs + byteLength ds := by
  induction cs with
  | nil => simp
  | cons c cs ih => simp [ih, Nat.add_assoc]

theorem utf8ByteSize_ofList (cs : List Char) :
    (String.ofList cs).utf8ByteSize = byteLength cs := by
  induction cs with
  | nil => rfl
  | cons c cs ih =>
    rw [String.ofList_cons, String.utf8ByteSize_append, String.utf8ByteSize_singleton, ih,
      byteLength_cons]

theorem length_dropBlanks_le (cs : List Char) : (dropBlanks cs).length ≤ cs.length :=
  (List.dropWhile_sublist _).length_le

end Calculator.Text
