import DdlDump.Ddl.Replay
import DdlDump.Text.LowerCase

/-!
# What a view reads from

The body of a view names the objects that it reads from behind FROM and JOIN, in any mixture of
capitals and small letters. A reference is a name, possibly with a database and a dot in front, and
each of the two words may be quoted. References are looked for from left to right, each one behind
the end of the one before.
-/

namespace DdlDump

/-- A name that stands behind FROM or JOIN, with its database if there is one. -/
structure Reference where
  schema? : Option Text
  name : Text
  deriving DecidableEq, Repr

namespace Reference

/-- Whether a character spells a capital letter, in either case. The dotted capital I and the
dotless small one spell the letter I as well. -/
def spells (capital c : Char) : Bool :=
  c.toUpper == capital || (capital == 'I' && (c == 'İ' || c == 'ı'))

/-- Takes a keyword in either case off the front of a text. -/
def takeKeyword? : Text → Text → Option Text
  | [], t => some t
  | _ :: _, [] => none
  | k :: ks, c :: t => if spells k c then takeKeyword? ks t else none

/-- Takes FROM or JOIN off the front of a text. -/
def takeSource? (t : Text) : Option Text :=
  (takeKeyword? "FROM".toList t).or (takeKeyword? "JOIN".toList t)

/-- Takes off the quote at the start of a text, if there is one. -/
def dropQuote : Text → Text
  | [] => []
  | c :: t => if c = Column.quote then t else c :: t

/-- Takes the second word of a qualified name off the front of a text, with the dot before it. -/
def takeQualified? (t : Text) : Option (Text × Text) :=
  match dropQuote t with
  | '.' :: r =>
    let body := dropQuote r
    if Text.atWordEnd body then none else some (Text.word body, Text.afterWord body)
  | _ => none

/-- Takes a name, qualified or not, off the front of a text. -/
def takeName? (t : Text) : Option (Reference × Text) :=
  let body := dropQuote t
  if Text.atWordEnd body then none
  else
    match takeQualified? (Text.afterWord body) with
    | some (name, rest) => some (⟨some (Text.word body), name⟩, dropQuote rest)
    | none => some (⟨none, Text.word body⟩, dropQuote (Text.afterWord body))

/-- Takes a keyword, at least one blank and a name off the front of a text. -/
def take? (t : Text) : Option (Reference × Text) :=
  match takeSource? t with
  | some (c :: r) => if isBlank c then takeName? (Text.trimLeft r) else none
  | _ => none

/-! ### Taking a reference leaves a shorter text -/

theorem length_of_takeKeyword? {k t r : Text} (h : takeKeyword? k t = some r) :
    r.length + k.length = t.length := by
  induction k generalizing t with
  | nil => simp_all [takeKeyword?]
  | cons c k ih =>
    cases t with
    | nil => simp [takeKeyword?] at h
    | cons d t =>
      rw [takeKeyword?] at h
      split at h
      · have := ih h
        simp only [List.length_cons]
        omega
      · simp at h

theorem length_dropQuote_le (t : Text) : (dropQuote t).length ≤ t.length := by
  cases t with
  | nil => exact Nat.le_refl _
  | cons c t =>
    rw [dropQuote]
    split
    · exact Nat.le_succ _
    · exact Nat.le_refl _

theorem length_le_of_takeQualified? {t name rest : Text}
    (h : takeQualified? t = some (name, rest)) : rest.length ≤ t.length := by
  unfold takeQualified? at h
  split at h
  · next r hr =>
    have h1 := length_dropQuote_le t
    have h2 := length_dropQuote_le r
    have h3 := Text.length_afterWord_le (dropQuote r)
    rw [hr, List.length_cons] at h1
    simp only at h
    split at h
    · simp at h
    · simp only [Option.some.injEq, Prod.mk.injEq] at h
      rw [← h.2]
      omega
  · simp at h

theorem length_le_of_takeName? {t rest : Text} {r : Reference}
    (h : takeName? t = some (r, rest)) : rest.length ≤ t.length := by
  unfold takeName? at h
  have h1 := length_dropQuote_le t
  have h2 := Text.length_afterWord_le (dropQuote t)
  simp only at h
  split at h
  · simp at h
  · split at h
    · next name rest' hq =>
      have h3 := length_le_of_takeQualified? hq
      have h4 := length_dropQuote_le rest'
      simp only [Option.some.injEq, Prod.mk.injEq] at h
      rw [← h.2]
      omega
    · have h4 := length_dropQuote_le (Text.afterWord (dropQuote t))
      simp only [Option.some.injEq, Prod.mk.injEq] at h
      rw [← h.2]
      omega

/-- Taking a reference leaves a shorter text. -/
theorem length_lt_of_take? {t rest : Text} {r : Reference} (h : take? t = some (r, rest)) :
    rest.length < t.length := by
  unfold take? at h
  split at h
  · next c u hs =>
    have h1 : (c :: u).length + 4 = t.length := by
      rcases Option.or_eq_some_iff.1 hs with hf | ⟨_, hj⟩
      · exact length_of_takeKeyword? hf
      · exact length_of_takeKeyword? hj
    rw [List.length_cons] at h1
    split at h
    · have h2 := length_le_of_takeName? h
      have h3 : (Text.trimLeft u).length ≤ u.length := (List.dropWhile_sublist _).length_le
      omega
    · simp at h
  · simp at h

/-- The references of a text, from left to right. A keyword counts only where no word is in
progress; `inWord` says whether a word character stands in front of the text. -/
def scan (inWord : Bool) (t : Text) : List Reference :=
  match _h : (if inWord then none else take? t) with
  | some (r, rest) => r :: scan false rest
  | none =>
    match t with
    | [] => []
    | c :: rest => scan (isWordChar c) rest
termination_by t.length
decreasing_by
  · cases inWord with
    | false => exact length_lt_of_take? (by simpa using _h)
    | true => simp at _h
  · exact Nat.lt_succ_self _

end Reference

/-- The objects that a text reads from, in the order of their first mention. References to other
databases are passed over; `known?` finds an object by its name in lower case. -/
def objectsRead (db : Text) (known? : Text → Option Text) (text : Text) : List Text :=
  ((Reference.scan false text).filterMap fun r =>
    if r.schema?.all fun s => s.lower == db.lower then known? r.name.lower else none).eraseDups

end DdlDump
