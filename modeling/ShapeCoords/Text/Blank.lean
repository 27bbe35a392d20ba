/-!
White space in the sense of the Unicode property White_Space, and trimming by it.
-/

namespace ShapeCoords.Text

/-- The twenty-five characters with the property White_Space. U+FEFF and U+200B are not among them.
-/
def isBlank (c : Char) : Bool :=
  let n := c.toNat
  (9 ≤ n && n ≤ 13) || n == 0x20 || n == 0x85 || n == 0xA0 || n == 0x1680 ||
    (0x2000 ≤ n && n ≤ 0x200A) || n == 0x2028 || n == 0x2029 || n == 0x202F || n == 0x205F ||
    n == 0x3000

def trimStart (s : List Char) : List Char :=
  s.dropWhile isBlank

def trimEnd (s : List Char) : List Char :=
  (s.reverse.dropWhile isBlank).reverse

def trim (s : List Char) : List Char :=
  trimEnd (trimStart s)

def allBlank (s : List Char) : Bool :=
  s.all isBlank

/-- The five ASCII characters that separate the words of a class attribute and the parts of a tag.
-/
def isAsciiSpace (c : Char) : Bool :=
  c == ' ' || c == '\t' || c == '\n' || c == '\r' || c == '\x0c'

def isAsciiLetter (c : Char) : Bool :=
  ('a' ≤ c && c ≤ 'z') || ('A' ≤ c && c ≤ 'Z')

def isAsciiDigit (c : Char) : Bool :=
  '0' ≤ c && c ≤ '9'

def isAsciiAlphanumeric (c : Char) : Bool :=
  isAsciiLetter c || isAsciiDigit c

/-- Lower case for ASCII letters; every other character stays as it is. -/
def lowerAscii (c : Char) : Char :=
  if 'A' ≤ c && c ≤ 'Z' then Char.ofNat (c.toNat + 32) else c

/-- Equality up to the case of ASCII letters. -/
def sameIgnoringCase (a b : List Char) : Bool :=
  a.map lowerAscii == b.map lowerAscii

def dropWordIgnoringCase : List Char → List Char → Option (List Char)
  | [], s => some s
  | _ :: _, [] => none
  | w :: word, c :: s => if lowerAscii w == lowerAscii c then dropWordIgnoringCase word s else none

def dropWord : List Char → List Char → Option (List Char)
  | [], s => some s
  | _ :: _, [] => none
  | w :: word, c :: s => if w == c then dropWord word s else none

theorem dropWord_append (word s : List Char) : dropWord word (word ++ s) = some s := by
  induction word with
  | nil => rfl
  | cons w word ih => simp [dropWord, ih]

theorem eq_append_of_dropWord {word s r : List Char} (h : dropWord word s = some r) :
    s = word ++ r := by
  fun_induction dropWord word s with
  | case1 => simp_all
  | case2 => simp at h
  | case3 w word c s hc ih => simp_all
  | case4 => simp at h

end ShapeCoords.Text
