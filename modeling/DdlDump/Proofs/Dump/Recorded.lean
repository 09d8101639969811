import DdlDump.Dump.Recorded
import Mathlib.Data.List.Basic

/-!
# Steps of a dump

What a step comes to depends on the look-ups that were made before it. Three things are said of
steps, and each is passed on from steps to what is composed of them.

* `Dumping.Comes`: behind certain look-ups a step makes certain others and comes to a value.
* `Dumping.EndsOnly`: a step ends the dump for certain reasons only.
* `Asking.Alike`: two steps come to the same value. How far the look-ups before them and the events
  on the way may differ is left to a `Comparison`. In one comparison the same look-ups are made and
  only what the user is told differs, in another nothing differs although anything may have been
  asked before, and in a third the order of the events may be another one as well.
-/

namespace DdlDump

namespace Recorded

variable {α β : Type}

/-- The value of the second step is the value of the whole. -/
@[simp]
lemma value_bind (x : Recorded α) (f : α → Recorded β) : (x >>= f).value = (f x.value).value :=
  rfl

end Recorded

/-! ### Comparisons -/

/-- How two runs are compared: by the look-ups in front of them and by what happens in them. -/
structure Comparison where
  before : List LookUp → List LookUp → Prop
  events : List Event → List Event → Prop
  nil : events [] []
  append {e e' f f' : List Event} : events e e' → events f f' → events (e ++ f) (e' ++ f')
  /-- Alike runs are followed by alike runs. -/
  pass {b b' : List LookUp} {e e' : List Event} : before b b' → events e e' →
    before (b ++ e.filterMap Event.lookUp?) (b' ++ e'.filterMap Event.lookUp?)

namespace Comparison

/-- The same look-ups, whatever the user is told. -/
def byLookUps : Comparison where
  before := Eq
  events e e' := e.filterMap Event.lookUp? = e'.filterMap Event.lookUp?
  nil := rfl
  append h h' := by rw [List.filterMap_append, List.filterMap_append, h, h']
  pass h h' := by rw [h, h']

/-- The same events, whatever was asked before. -/
def exactly : Comparison where
  before _ _ := True
  events := Eq
  nil := rfl
  append h h' := by rw [h, h']
  pass _ _ := trivial

/-- The same events in some order, whatever was asked before. -/
def upToOrder : Comparison where
  before _ _ := True
  events := List.Perm
  nil := .refl _
  append := List.Perm.append
  pass _ _ := trivial

/-- The same events, of which every look-up is of some kind. -/
def asking (P : LookUp → Prop) : Comparison where
  before := Eq
  events e e' := e = e' ∧ ∀ l ∈ e.filterMap Event.lookUp?, P l
  nil := ⟨rfl, fun _ hl => absurd hl List.not_mem_nil⟩
  append h h' := by
    refine ⟨by rw [h.1, h'.1], fun l hl => ?_⟩
    rw [List.filterMap_append, List.mem_append] at hl
    exact hl.elim (h.2 l) (h'.2 l)
  pass h h' := by rw [h, h'.1]

end Comparison

/-- Two records with the same value and alike events. -/
structure Recorded.Alike {α : Type} (c : Comparison) (x y : Recorded α) : Prop where
  value : x.value = y.value
  events : c.events x.events y.events

/-! ### Steps that are alike -/

variable {α β γ : Type} {c : Comparison}

/-- Steps that come to alike records, as long as what was asked before them is alike. -/
def Asking.Alike (c : Comparison) (x y : Asking α) : Prop :=
  ∀ ⦃b b' : List LookUp⦄, c.before b b' → (x.after b).Alike c (y.after b')

/-- Steps that may end the dump, and are alike. -/
def Dumping.Alike (c : Comparison) (x y : Dumping α) : Prop :=
  Asking.Alike c x.run y.run

namespace Asking

lemma alike_pure (c : Comparison) (a : α) : Alike c (pure a) (pure a) :=
  fun _ _ _ => ⟨rfl, c.nil⟩

/-- Steps that are alike go on alike. -/
lemma Alike.bind {x y : Asking α} {f g : α → Asking β} (h : Alike c x y)
    (hf : ∀ a, Alike c (f a) (g a)) : Alike c (x >>= f) (y >>= g) := by
  intro b b' hb
  have hx := h hb
  have hbehind : c.before (b ++ (x.after b).lookUps) (b' ++ (y.after b').lookUps) :=
    c.pass hb hx.events
  rw [after_bind, after_bind]
  refine ⟨?_, ?_⟩
  · rw [Recorded.value_bind, Recorded.value_bind, hx.value]
    exact (hf _ hbehind).value
  · rw [Recorded.bind_eq, Recorded.bind_eq, hx.value]
    exact c.append hx.events (hf _ hbehind).events

/-- What is put into slots are results of tasks. -/
lemma exists_of_mem_fill {tasks : List (Asking α)} {order : List Nat} {slots : List (Option α)}
    {before : List LookUp} (hslots : ∀ a, some a ∈ slots → ∃ t ∈ tasks, ∃ b, a = (t.after b).value)
    {a : α} (ha : some a ∈ ((Pool.fill tasks order slots).after before).value) :
    ∃ t ∈ tasks, ∃ b, a = (t.after b).value := by
  induction order generalizing slots before with
  | nil => exact hslots a ha
  | cons i order ih =>
    unfold Pool.fill at ha
    cases htask : tasks[i]? with
    | none =>
      rw [htask] at ha
      exact ih hslots ha
    | some t =>
      rw [htask] at ha
      refine ih (fun a' ha' => ?_) ha
      rcases List.mem_or_eq_of_mem_set ha' with hmem | heq
      · exact hslots a' hmem
      · exact ⟨t, List.mem_of_getElem? htask, before, Option.some.inj heq⟩

/-- What a pool gives are results of its tasks. -/
lemma exists_of_mem_poolRun {tasks : List (Asking α)} {order : List Nat} {before : List LookUp}
    {a : α} (ha : a ∈ ((Pool.run order tasks).after before).value) :
    ∃ t ∈ tasks, ∃ b, a = (t.after b).value := by
  obtain ⟨slot, hslot, rfl⟩ := List.mem_filterMap.1 ha
  refine exists_of_mem_fill (fun a' ha' => ?_) hslot
  obtain ⟨t, -, ht⟩ := List.mem_map.1 ha'
  exact nomatch ht

/-- Tasks that are alike one by one are alike in a pool that gets them done in the same order. -/
lemma alike_poolRun {f g : γ → Asking α} (hf : ∀ a, Alike c (f a) (g a)) (order : List Nat)
    (xs : List γ) : Alike c (Pool.run order (xs.map f)) (Pool.run order (xs.map g)) := by
  have hfill : ∀ slots, Alike c (Pool.fill (xs.map f) order slots)
      (Pool.fill (xs.map g) order slots) := by
    induction order with
    | nil => exact fun slots => alike_pure c slots
    | cons i order ih =>
      intro slots
      unfold Pool.fill
      rw [List.getElem?_map, List.getElem?_map]
      cases xs[i]? with
      | none => exact ih slots
      | some x => exact (hf x).bind fun a => ih (slots.set i (some a))
  unfold Pool.run
  rw [List.map_map, List.map_map]
  exact (hfill _).bind fun slots => alike_pure c _

end Asking

namespace Dumping

lemma alike_pure (c : Comparison) (a : α) : Alike c (pure a) (pure a) :=
  Asking.alike_pure c _

lemma alike_throw (c : Comparison) (e : DumpError) :
    Alike c (throw e : Dumping α) (throw e) :=
  Asking.alike_pure c _

/-- Steps that are alike go on alike, or end the dump alike. They need to go on alike only from what
the first of them may come to. -/
lemma Alike.bind_of_value {x y : Dumping α} {f g : α → Dumping β} (h : Alike c x y)
    (hf : ∀ a b, (x.after b).value = .ok a → Alike c (f a) (g a)) :
    Alike c (x >>= f) (y >>= g) := by
  intro b b' hb
  have hx := h hb
  have hbehind : c.before (b ++ (x.run.after b).lookUps) (b' ++ (y.run.after b').lookUps) :=
    c.pass hb hx.events
  change (x.run.after b >>= fun _ => Asking.after _ _).Alike c
    (y.run.after b' >>= fun _ => Asking.after _ _)
  rw [Recorded.bind_eq, Recorded.bind_eq, ← hx.value]
  cases hvalue : (x.run.after b).value with
  | error e => exact ⟨rfl, c.append hx.events c.nil⟩
  | ok a =>
    have hnext := hf a b hvalue hbehind
    exact ⟨hnext.value, c.append hx.events hnext.events⟩

lemma Alike.bind {x y : Dumping α} {f g : α → Dumping β} (h : Alike c x y)
    (hf : ∀ a, Alike c (f a) (g a)) : Alike c (x >>= f) (y >>= g) :=
  h.bind_of_value fun a _ _ => hf a

/-- Records that are alike are alike as steps. -/
lemma alike_lift {x y : Recorded α} (h : x.Alike c y) :
    Alike c (liftM x : Dumping α) (liftM y) := by
  intro b b' _
  exact ⟨congrArg Except.ok h.value, h.events⟩

/-- Steps that leave nothing different leave nothing in another order. -/
lemma Alike.upToOrder {x y : Dumping α} (h : Alike .exactly x y) : Alike .upToOrder x y :=
  fun _ _ hb => ⟨(h hb).value, .of_eq (h hb).events⟩

/-- Steps that are alike for each element are alike for the list. -/
lemma alike_mapM {f g : γ → Dumping α} (hf : ∀ a, Alike c (f a) (g a)) (xs : List γ) :
    Alike c (xs.mapM f) (xs.mapM g) := by
  induction xs with
  | nil => exact alike_pure c []
  | cons x xs ih =>
    rw [List.mapM_cons, List.mapM_cons]
    exact (hf x).bind fun a => ih.bind fun as => alike_pure c (a :: as)

end Dumping

/-! ### What steps come to -/

namespace Dumping

/-- Behind certain look-ups, a step makes certain others and comes to a value. -/
structure Comes (x : Dumping α) (before made : List LookUp) (a : α) : Prop where
  value : (x.after before).value = .ok a
  lookUps : (x.after before).lookUps = made

variable {x : Dumping α} {f : α → Dumping β} {before made : List LookUp}

/-- A step that comes to a value makes just the look-ups that it makes. -/
lemma comes_of_value {a : α} (h : (x.after before).value = .ok a) :
    x.Comes before (x.after before).lookUps a :=
  ⟨h, rfl⟩

/-- A pure value is come to without asking. -/
lemma comes_pure_iff {a b : α} : Comes (pure a) before made b ↔ made = [] ∧ b = a := by
  constructor
  · rintro ⟨hvalue, hmade⟩
    exact ⟨hmade.symm, (Except.ok.inj hvalue).symm⟩
  · rintro ⟨rfl, rfl⟩
    exact ⟨rfl, rfl⟩

/-- Nothing comes of a step that ends the dump. -/
lemma not_comes_throw {e : DumpError} {a : α} : ¬ Comes (throw e) before made a := by
  intro h
  have hvalue : Except.error e = Except.ok a := h.value
  exact nomatch hvalue

/-- What is recorded is come to as a step. -/
lemma comes_lift_iff {r : Recorded α} {a : α} :
    Comes (liftM r) before made a ↔ made = r.lookUps ∧ a = r.value := by
  constructor
  · rintro ⟨hvalue, hmade⟩
    exact ⟨hmade.symm, (Except.ok.inj hvalue).symm⟩
  · rintro ⟨rfl, rfl⟩
    exact ⟨rfl, rfl⟩

/-- A step that comes to a value is followed by the next one. -/
lemma after_bind_of_comes {a : α} (h : x.Comes before made a) :
    (x >>= f).after before =
      ⟨((f a).after (before ++ made)).value,
        (x.after before).events ++ ((f a).after (before ++ made)).events⟩ := by
  obtain ⟨hvalue, rfl⟩ := h
  change (x.run.after before >>= fun result => Asking.after _ _) = _
  rw [Recorded.bind_eq]
  unfold after at hvalue ⊢
  rw [hvalue]
  rfl

/-- A step that ends the dump is followed by nothing. -/
lemma after_bind_of_error {e : DumpError} (h : (x.after before).value = .error e) :
    (x >>= f).after before = ⟨.error e, (x.after before).events⟩ := by
  change (x.run.after before >>= fun result => Asking.after _ _) = _
  rw [Recorded.bind_eq]
  unfold after at h ⊢
  rw [h]
  exact congrArg (Recorded.mk _) (List.append_nil _)

/-- What is recorded happens in front of the next step. -/
lemma after_lift_bind (r : Recorded α) (before : List LookUp) :
    ((liftM r : Dumping α) >>= f).after before =
      ⟨((f r.value).after (before ++ r.lookUps)).value,
        r.events ++ ((f r.value).after (before ++ r.lookUps)).events⟩ :=
  after_bind_of_comes (comes_lift_iff.2 ⟨rfl, rfl⟩)

/-- Two steps come to a value one after the other. -/
lemma Comes.bind {a : α} {b : β} {more : List LookUp} (h : x.Comes before made a)
    (hf : (f a).Comes (before ++ made) more b) : (x >>= f).Comes before (made ++ more) b := by
  constructor
  · rw [after_bind_of_comes h]
    exact hf.value
  · rw [after_bind_of_comes h, Recorded.lookUps, List.filterMap_append]
    exact congrArg₂ (· ++ ·) h.lookUps hf.lookUps

/-- Two steps that come to a value do so one after the other. -/
lemma Comes.of_bind {b : β} (h : (x >>= f).Comes before made b) :
    ∃ first a second, x.Comes before first a ∧ (f a).Comes (before ++ first) second b ∧
      made = first ++ second := by
  cases hvalue : (x.after before).value with
  | error e =>
    have hend := h.value
    rw [after_bind_of_error hvalue] at hend
    exact nomatch hend
  | ok a =>
    have hx := comes_of_value hvalue
    refine ⟨_, a, ((f a).after (before ++ (x.after before).lookUps)).lookUps, hx, ⟨?_, rfl⟩, ?_⟩
    · have hend := h.value
      rw [after_bind_of_comes hx] at hend
      exact hend
    · rw [← h.lookUps, after_bind_of_comes hx, Recorded.lookUps, List.filterMap_append]
      rfl

/-- What is given in front of a step changes nothing about what it comes to. -/
lemma comes_lift_bind_iff {r : Recorded α} {b : β} (hr : r.lookUps = []) :
    Comes ((liftM r : Dumping α) >>= f) before made b ↔ (f r.value).Comes before made b := by
  constructor
  · intro h
    obtain ⟨first, a, second, hfirst, hsecond, rfl⟩ := h.of_bind
    obtain ⟨rfl, rfl⟩ := comes_lift_iff.1 hfirst
    rw [hr, List.append_nil] at hsecond
    rwa [hr, List.nil_append]
  · intro h
    have hfirst : Comes (liftM r) before [] r.value := comes_lift_iff.2 ⟨hr.symm, rfl⟩
    exact hfirst.bind (by rwa [List.append_nil])

/-- What is made of a value at the end asks nothing more. -/
lemma comes_bind_pure_iff {g : α → β} {b : β} :
    Comes (x >>= fun a => pure (g a)) before made b ↔ ∃ a, x.Comes before made a ∧ b = g a := by
  constructor
  · intro h
    obtain ⟨first, a, second, hfirst, hsecond, rfl⟩ := h.of_bind
    obtain ⟨rfl, rfl⟩ := comes_pure_iff.1 hsecond
    exact ⟨a, by rwa [List.append_nil], rfl⟩
  · rintro ⟨a, ha, rfl⟩
    have h := ha.bind (f := fun a => pure (g a)) (comes_pure_iff.2 ⟨rfl, rfl⟩)
    rwa [List.append_nil] at h

/-- Steps that come to the same at any time do so one after another. -/
lemma after_mapM_of_steady {f : γ → Dumping α} {value : γ → α} {events : γ → List Event}
    (hf : ∀ x before, (f x).after before = ⟨.ok (value x), events x⟩) (xs : List γ)
    (before : List LookUp) :
    (xs.mapM f).after before = ⟨.ok (xs.map value), xs.flatMap events⟩ := by
  induction xs generalizing before with
  | nil => rfl
  | cons x xs ih =>
    have hx : Comes (f x) before _ (value x) :=
      comes_of_value (congrArg Recorded.value (hf x before))
    have hxs : Comes (xs.mapM f) (before ++ ((f x).after before).lookUps) _ (xs.map value) :=
      comes_of_value (congrArg Recorded.value (ih _))
    rw [List.mapM_cons, after_bind_of_comes hx, after_bind_of_comes hxs, ih, hf]
    exact congrArg (fun events' => Recorded.mk _ (events x ++ events')) (List.append_nil _)

/-- What a look-up for each element comes to, where each comes behind those in front of it. -/
def inTurn (question : γ → LookUp) (answer : List LookUp → γ → α) : List LookUp → List γ → List α
  | _, [] => []
  | before, x :: xs => answer before x :: inTurn question answer (before ++ [question x]) xs

/-- Where answers do not depend on what was asked before, each element has its own. -/
lemma inTurn_of_steady {question : γ → LookUp} {answer : List LookUp → γ → α} {fixed : γ → α}
    (h : ∀ before x, answer before x = fixed x) (before : List LookUp) (xs : List γ) :
    inTurn question answer before xs = xs.map fixed := by
  induction xs generalizing before with
  | nil => rfl
  | cons x xs ih => rw [inTurn, h, ih, List.map_cons]

/-- What is answered in turn is answered to one of the elements. -/
lemma exists_of_mem_inTurn {question : γ → LookUp} {answer : List LookUp → γ → α}
    {before : List LookUp} {xs : List γ} {a : α} (ha : a ∈ inTurn question answer before xs) :
    ∃ x ∈ xs, ∃ b, a = answer b x := by
  induction xs generalizing before with
  | nil => exact absurd ha List.not_mem_nil
  | cons x xs ih =>
    rw [inTurn, List.mem_cons] at ha
    rcases ha with rfl | ha
    · exact ⟨x, List.mem_cons_self, before, rfl⟩
    · obtain ⟨y, hy, b, hb⟩ := ih ha
      exact ⟨y, List.mem_cons_of_mem x hy, b, hb⟩

/-- Steps of one look-up each come to their answers in turn. -/
lemma Comes.of_mapM {f : γ → Dumping α} {question : γ → LookUp} {answer : List LookUp → γ → α}
    (hf : ∀ x before made a, (f x).Comes before made a → made = [question x] ∧ a = answer before x)
    {xs : List γ} {as : List α} (h : Comes (xs.mapM f) before made as) :
    made = xs.map question ∧ as = inTurn question answer before xs := by
  induction xs generalizing before made as with
  | nil =>
    obtain ⟨rfl, rfl⟩ := comes_pure_iff.1 h
    exact ⟨rfl, rfl⟩
  | cons x xs ih =>
    rw [List.mapM_cons] at h
    obtain ⟨first, a, second, hx, hothers, rfl⟩ := h.of_bind
    obtain ⟨rest, hrest, rfl⟩ := comes_bind_pure_iff.1 hothers
    obtain ⟨rfl, rfl⟩ := hf x _ _ _ hx
    obtain ⟨rfl, rfl⟩ := ih hrest
    exact ⟨rfl, rfl⟩

end Dumping

/-! ### Why steps end the dump -/

namespace Dumping

/-- A step ends the dump for certain reasons only. -/
def EndsOnly (P : DumpError → Prop) (x : Dumping α) : Prop :=
  ∀ before e, (x.after before).value = .error e → P e

variable {P : DumpError → Prop} {x : Dumping α} {f : α → Dumping β}

lemma endsOnly_pure (a : α) : EndsOnly P (pure a) := by
  intro before e h
  have hvalue : Except.ok a = Except.error e := h
  exact nomatch hvalue

lemma endsOnly_throw {e : DumpError} (he : P e) : EndsOnly P (throw e : Dumping α) := by
  intro before e' h
  obtain rfl : e = e' := Except.error.inj h
  exact he

lemma endsOnly_lift (r : Recorded α) : EndsOnly P (liftM r : Dumping α) := by
  intro before e h
  have hvalue : Except.ok r.value = Except.error e := h
  exact nomatch hvalue

lemma EndsOnly.mono {Q : DumpError → Prop} (h : x.EndsOnly P) (hPQ : ∀ e, P e → Q e) :
    x.EndsOnly Q :=
  fun before e he => hPQ e (h before e he)

/-- Two steps end the dump for reasons that one of them has. -/
lemma EndsOnly.bind (h : x.EndsOnly P) (hf : ∀ a, (f a).EndsOnly P) : (x >>= f).EndsOnly P := by
  intro before e he
  cases hvalue : (x.after before).value with
  | error e' =>
    rw [after_bind_of_error hvalue] at he
    obtain rfl : e' = e := Except.error.inj he
    exact h before e' hvalue
  | ok a =>
    rw [after_bind_of_comes (comes_of_value hvalue)] at he
    exact hf a _ e he

/-- A step for each element ends the dump for the reasons of one of them. -/
lemma endsOnly_mapM {f : γ → Dumping α} {xs : List γ} (hf : ∀ x ∈ xs, (f x).EndsOnly P) :
    EndsOnly P (xs.mapM f) := by
  induction xs with
  | nil => exact endsOnly_pure []
  | cons x xs ih =>
    rw [List.forall_mem_cons] at hf
    rw [List.mapM_cons]
    exact hf.1.bind fun a => (ih hf.2).bind fun as => endsOnly_pure (a :: as)

/-- Where no reason counts, a step comes to a value. -/
lemma EndsOnly.exists_eq_ok (h : x.EndsOnly fun _ => False) (before : List LookUp) :
    ∃ a, (x.after before).value = .ok a := by
  cases hvalue : (x.after before).value with
  | error e => exact (h before e hvalue).elim
  | ok a => exact ⟨a, rfl⟩

end Dumping

end DdlDump
