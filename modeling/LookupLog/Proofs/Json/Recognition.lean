import LookupLog.Proofs.Json.Strings
import LookupLog.Proofs.Json.Words

/-!
# The reader reads exactly the grammar

A state and the stack around it demand something of the text that is left: `Demands` says what, in
terms of the grammar. One character leads to a state that demands the rest (`demands_cons_iff`), and
nothing is demanded any more exactly where a text may end (`demands_nil_iff`). So a run gives a
value exactly for the texts that its first state demands (`run_eq_some_iff`), and a whole text is
read as a value exactly if it denotes it (`JsonValue.read?_eq_some_iff`). Hence no text denotes two
values.
-/

namespace LookupLog.JsonReader

open JsonGrammar

/-! ## 1. White space in front -/

section AfterBlanks

variable {P : Text → Prop} {c : Char} {t : Text}

/-- A text with white space in front of one that has a property. -/
def AfterBlanks (P : Text → Prop) (t : Text) : Prop :=
  ∃ blanks rest, t = blanks ++ rest ∧ IsBlanks blanks ∧ P rest

theorem afterBlanks_nil_iff : AfterBlanks P [] ↔ P [] := by
  constructor
  · rintro ⟨blanks, rest, ht, -, h⟩
    obtain ⟨-, rfl⟩ := List.append_eq_nil_iff.mp ht.symm
    exact h
  · intro h
    exact ⟨[], [], rfl, nofun, h⟩

theorem afterBlanks_cons_iff : AfterBlanks P (c :: t) ↔
    P (c :: t) ∨ isBlank c = true ∧ AfterBlanks P t := by
  constructor
  · rintro ⟨blanks, rest, ht, hb, h⟩
    cases blanks with
    | nil =>
      obtain rfl : c :: t = rest := ht
      exact Or.inl h
    | cons b blanks =>
      obtain ⟨rfl, rfl⟩ := List.cons.inj ht
      obtain ⟨hc, hb⟩ := List.forall_mem_cons.mp hb
      exact Or.inr ⟨hc, blanks, rest, rfl, hb, h⟩
  · rintro (h | ⟨hc, blanks, rest, rfl, hb, h⟩)
    · exact ⟨[], _, rfl, nofun, h⟩
    · exact ⟨c :: blanks, rest, rfl, List.forall_mem_cons.mpr ⟨hc, hb⟩, h⟩

theorem AfterBlanks.imp {Q : Text → Prop} (hPQ : ∀ t, P t → Q t) (h : AfterBlanks P t) :
    AfterBlanks Q t := by
  obtain ⟨blanks, rest, rfl, hb, hr⟩ := h
  exact ⟨blanks, rest, rfl, hb, hPQ rest hr⟩

end AfterBlanks

/-! ## 2. What is demanded of a text -/

/-- What closes the frames around a value, and the value of the whole text. -/
def Closes : List Frame → JsonValue → (root : JsonValue) → Text → Prop
  | [], v, root, t => t = [] ∧ v = root
  | .array before :: stack, v, root, t =>
    ∃ more items rest, t = more ++ ']' :: rest ∧ MoreItems more items ∧
      AfterBlanks (Closes stack (.array (before ++ v :: items)) root) rest
  | .object before key :: stack, v, root, t =>
    ∃ more members rest, t = more ++ '\x7d' :: rest ∧ MoreMembers more members ∧
      AfterBlanks (Closes stack (.object (before ++ (key, v) :: members)) root) rest

section Demands

variable (stack : List Frame) (root : JsonValue)

/-- A value, and what closes the frames around it. -/
def ValueThen (t : Text) : Prop :=
  ∃ written v rest, t = written ++ rest ∧ IsValue written v ∧
    AfterBlanks (Closes stack v root) rest

/-- A colon and the value behind it. -/
def ColonThen (before : List (Text × JsonValue)) (key t : Text) : Prop :=
  ∃ rest, t = ':' :: rest ∧ AfterBlanks (ValueThen (.object before key :: stack) root) rest

/-- A key and the value behind it. -/
def KeyThen (before : List (Text × JsonValue)) (t : Text) : Prop :=
  ∃ content key rest, t = '"' :: (content ++ '"' :: rest) ∧ IsContent content key ∧
    AfterBlanks (ColonThen stack root before key) rest

/-- What follows a string, which is a key if the members before it are given. -/
def StringThen (text : Text) : Option (List (Text × JsonValue)) → Text → Prop
  | none => AfterBlanks (Closes stack (.string text) root)
  | some before => AfterBlanks (ColonThen stack root before text)

/-- What a state demands of a text that does not begin with white space. -/
def Expects : State → Text → Prop
  | .value, t => ValueThen stack root t
  | .items, t =>
    (∃ rest, t = ']' :: rest ∧ AfterBlanks (Closes stack (.array []) root) rest) ∨
      ValueThen (.array [] :: stack) root t
  | .members, t =>
    (∃ rest, t = '\x7d' :: rest ∧ AfterBlanks (Closes stack (.object []) root) rest) ∨
      KeyThen stack root [] t
  | .key before, t => KeyThen stack root before t
  | .colon before key, t => ColonThen stack root before key t
  | .done v, t => Closes stack v root t
  | .string before place read, t =>
    ∃ content text rest, t = content ++ '"' :: rest ∧ FromPlace place content text ∧
      StringThen stack root (read ++ text) before rest
  | .word read, t =>
    ∃ more v rest, t = more ++ rest ∧ (∀ c ∈ more, isWordChar c = true) ∧
      IsWord (read ++ more) v ∧ AfterBlanks (Closes stack v root) rest

/-- The states in which white space is skipped. -/
def State.skips : State → Bool
  | .string _ _ _ => false
  | .word _ => false
  | _ => true

/-- **What a state demands of the text that is left.** -/
def Demands (state : State) (t : Text) : Prop :=
  if state.skips then AfterBlanks (Expects stack root state) t else Expects stack root state t

end Demands

/-! ## 3. What one character leads to -/

variable {stack : List Frame} {root : JsonValue} {c : Char} {t : Text}

theorem isBlank_of_isWordChar (hc : isWordChar c = true) : isBlank c = false := by
  rw [← Bool.not_eq_true]
  intro hb
  simp only [isBlank, Bool.or_eq_true, decide_eq_true_eq] at hb
  rcases hb with ((rfl | rfl) | rfl) | rfl <;> cases hc

/-- What is demanded where a character leads to. -/
def Leads (root : JsonValue) (next : Option (State × List Frame)) (t : Text) : Prop :=
  ∃ state stack, next = some (state, stack) ∧ Demands stack root state t

theorem leads_none_iff : Leads root none t ↔ False := by
  refine iff_of_false ?_ id
  rintro ⟨state, stack, h, -⟩
  cases h

theorem leads_some_iff {state : State} :
    Leads root (some (state, stack)) t ↔ Demands stack root state t := by
  constructor
  · rintro ⟨state, stack, h, hd⟩
    cases h
    exact hd
  · intro h
    exact ⟨state, stack, rfl, h⟩

theorem leads_ite_iff {p : Prop} [Decidable p] {next next' : Option (State × List Frame)} :
    Leads root (if p then next else next') t ↔ p ∧ Leads root next t ∨ ¬p ∧ Leads root next' t := by
  split
  · rename_i hp
    simp only [hp, true_and, not_true_eq_false, false_and, or_false]
  · rename_i hp
    simp only [hp, false_and, not_false_eq_true, true_and, false_or]

/-- Where a character leads to that is not white space, in the states in which white space is
    skipped. -/
def token : State → List Frame → Char → Option (State × List Frame)
  | .value, stack, c => start stack c
  | .items, stack, c =>
    if c = ']' then some (.done (.array []), stack) else start (.array [] :: stack) c
  | .members, stack, c =>
    if c = '\x7d' then some (.done (.object []), stack)
    else if c = '"' then some (.string (some []) .text [], stack)
    else none
  | .key before, stack, c => if c = '"' then some (.string (some before) .text [], stack) else none
  | .colon before key, stack, c =>
    if c = ':' then some (.value, .object before key :: stack) else none
  | .done v, stack, c => follow v c stack
  | .string _ _ _, _, _ => none
  | .word _, _, _ => none

theorem step_of_skips {state : State} (hs : state.skips = true) :
    step state stack c = if isBlank c then some (state, stack) else token state stack c := by
  cases state with
  | string => cases hs
  | word => cases hs
  | _ => rfl

/-! ## 4. Arrays and objects -/

/-- The first item of an array, or the next one, and what closes the array behind it. -/
theorem afterBlanks_valueThen_iff {before : List JsonValue} :
    AfterBlanks (ValueThen (.array before :: stack) root) t ↔
      ∃ written item more items rest, t = written ++ (more ++ ']' :: rest) ∧
        IsElement written item ∧ MoreItems more items ∧
        AfterBlanks (Closes stack (.array (before ++ item :: items)) root) rest := by
  constructor
  · rintro ⟨blanks, _, rfl, hb, written, item, _, rfl, hv, after, _, rfl, ha, more, items, rest,
      rfl, hm, hc⟩
    refine ⟨_, item, more, items, rest, ?_, .mk hb hv ha, hm, hc⟩
    simp only [List.append_assoc]
  · rintro ⟨_, item, more, items, rest, rfl, ⟨hb, hv, ha⟩, hm, hc⟩
    refine ⟨_, _, ?_, hb, _, item, _, rfl, hv, _, _, rfl, ha, more, items, rest, rfl, hm, hc⟩
    simp only [List.append_assoc]

/-- The first member of an object, or the next one, and what closes the object behind it. -/
theorem afterBlanks_keyThen_iff {before : List (Text × JsonValue)} :
    AfterBlanks (KeyThen stack root before) t ↔
      ∃ written key value more members rest, t = written ++ (more ++ '\x7d' :: rest) ∧
        IsMember written key value ∧ MoreMembers more members ∧
        AfterBlanks (Closes stack (.object (before ++ (key, value) :: members)) root) rest := by
  constructor
  · rintro ⟨blanks, _, rfl, hb, content, key, _, rfl, hk, blanks', _, rfl, hb', _, rfl, blanks'', _,
      rfl, hb'', written, value, _, rfl, hv, after, _, rfl, ha, more, members, rest, rfl, hm, hc⟩
    refine ⟨_, key, value, more, members, rest, ?_, .mk hb hk hb' (.mk hb'' hv ha), hm, hc⟩
    simp only [List.append_assoc, List.cons_append]
  · rintro ⟨_, key, value, more, members, rest, rfl, ⟨hb, hk, hb', ⟨hb'', hv, ha⟩⟩, hm, hc⟩
    refine ⟨_, _, ?_, hb, _, key, _, rfl, hk, _, _, rfl, hb', _, rfl, _, _, rfl, hb'', _, value, _,
      rfl, hv, _, _, rfl, ha, more, members, rest, rfl, hm, hc⟩
    simp only [List.append_assoc, List.cons_append]

/-- Behind an item: the end of the array, or a comma and the next item. -/
theorem closes_array_cons_iff {before : List JsonValue} {v : JsonValue} :
    Closes (.array before :: stack) v root (c :: t) ↔
      c = ']' ∧ AfterBlanks (Closes stack (.array (before ++ [v])) root) t ∨
      c = ',' ∧ AfterBlanks (ValueThen (.array (before ++ [v]) :: stack) root) t := by
  rw [afterBlanks_valueThen_iff]
  constructor
  · rintro ⟨_, _, rest, ht, hm, hc⟩
    cases hm with
    | nil =>
      obtain ⟨rfl, rfl⟩ := List.cons.inj ht
      exact Or.inl ⟨rfl, hc⟩
    | cons hi hm =>
      obtain ⟨rfl, rfl⟩ := List.cons.inj ht
      rw [List.append_cons] at hc
      exact Or.inr ⟨rfl, _, _, _, _, rest, List.append_assoc .., hi, hm, hc⟩
  · rintro (⟨rfl, hc⟩ | ⟨rfl, _, item, _, items, rest, rfl, hi, hm, hc⟩)
    · exact ⟨[], [], t, rfl, .nil, hc⟩
    · rw [← List.append_cons] at hc
      refine ⟨_, _, rest, ?_, .cons hi hm, hc⟩
      simp only [List.cons_append, List.append_assoc]

/-- Behind a member: the end of the object, or a comma and the next member. -/
theorem closes_object_cons_iff {before : List (Text × JsonValue)} {key : Text} {v : JsonValue} :
    Closes (.object before key :: stack) v root (c :: t) ↔
      c = '\x7d' ∧ AfterBlanks (Closes stack (.object (before ++ [(key, v)])) root) t ∨
      c = ',' ∧ AfterBlanks (KeyThen stack root (before ++ [(key, v)])) t := by
  rw [afterBlanks_keyThen_iff]
  constructor
  · rintro ⟨_, _, rest, ht, hm, hc⟩
    cases hm with
    | nil =>
      obtain ⟨rfl, rfl⟩ := List.cons.inj ht
      exact Or.inl ⟨rfl, hc⟩
    | cons hk hm =>
      obtain ⟨rfl, rfl⟩ := List.cons.inj ht
      rw [List.append_cons] at hc
      exact Or.inr ⟨rfl, _, _, _, _, _, rest, List.append_assoc .., hk, hm, hc⟩
  · rintro (⟨rfl, hc⟩ | ⟨rfl, _, key', value, _, members, rest, rfl, hk, hm, hc⟩)
    · exact ⟨[], [], t, rfl, .nil, hc⟩
    · rw [← List.append_cons] at hc
      refine ⟨_, _, rest, ?_, .cons hk hm, hc⟩
      simp only [List.cons_append, List.append_assoc]

/-- **Behind a value**: what closes the frame around it, or a comma and what may follow there. -/
theorem closes_cons_iff {v : JsonValue} :
    Closes stack v root (c :: t) ↔ Leads root (follow v c stack) t := by
  match stack with
  | [] =>
    refine (iff_of_false ?_ id).trans leads_none_iff.symm
    rintro ⟨h, -⟩
    cases h
  | .array before :: stack =>
    have hne : c = ']' → ¬c = ',' := by
      rintro rfl
      decide
    rw [closes_array_cons_iff, follow, leads_ite_iff, leads_ite_iff, leads_none_iff, leads_some_iff,
      leads_some_iff, and_false, or_false, or_comm]
    exact or_congr_right ⟨fun h => ⟨hne h.1, h⟩, fun h => h.2⟩
  | .object before key :: stack =>
    have hne : c = '\x7d' → ¬c = ',' := by
      rintro rfl
      decide
    rw [closes_object_cons_iff, follow, leads_ite_iff, leads_ite_iff, leads_none_iff,
      leads_some_iff, leads_some_iff, and_false, or_false, or_comm]
    exact or_congr_right ⟨fun h => ⟨hne h.1, h⟩, fun h => h.2⟩

/-! ## 5. Values -/

/-- A character of a word begins one. -/
theorem start_of_isWordChar (hc : isWordChar c = true) :
    start stack c = some (.word [c], stack) := by
  have hquote : c ≠ '"' := Text.ne_of_class hc rfl
  have hsquare : c ≠ '[' := Text.ne_of_class hc rfl
  have hcurly : c ≠ '\x7b' := Text.ne_of_class hc rfl
  rw [start, if_neg hquote, if_neg hsquare, if_neg hcurly, if_pos hc]

theorem isWord_ne_nil {v : JsonValue} (h : IsWord t v) : t ≠ [] := by
  rintro rfl
  cases word?_eq_some_iff.mpr h

/-- The first character of a value leads to what is demanded behind it. -/
theorem leads_start_of_isValue {written rest : Text} {v : JsonValue} (ht : c :: t = written ++ rest)
    (hv : IsValue written v) (hc : AfterBlanks (Closes stack v root) rest) :
    Leads root (start stack c) t := by
  cases hv with
  | word hw =>
    obtain ⟨c', more, rfl⟩ := List.exists_cons_of_ne_nil (isWord_ne_nil hw)
    obtain ⟨rfl, rfl⟩ := List.cons.inj ht
    obtain ⟨hfirst, hmore⟩ := List.forall_mem_cons.mp (isWordChar_of_isWord hw)
    rw [start_of_isWordChar hfirst, leads_some_iff]
    exact ⟨more, v, rest, rfl, hmore, hw, hc⟩
  | string h =>
    obtain ⟨rfl, rfl⟩ := List.cons.inj ht
    exact leads_some_iff.mpr ⟨_, _, rest, List.append_assoc .., h, hc⟩
  | emptyArray hb =>
    obtain ⟨rfl, rfl⟩ := List.cons.inj ht
    exact leads_some_iff.mpr ⟨_, _, List.append_assoc .., hb, Or.inl ⟨rest, rfl, hc⟩⟩
  | array hi hm =>
    simp only [List.cons_append, List.append_assoc, List.nil_append] at ht
    obtain ⟨rfl, rfl⟩ := List.cons.inj ht
    refine leads_some_iff.mpr (AfterBlanks.imp (fun _ => Or.inr) ?_)
    exact afterBlanks_valueThen_iff.mpr ⟨_, _, _, _, rest, rfl, hi, hm, hc⟩
  | emptyObject hb =>
    obtain ⟨rfl, rfl⟩ := List.cons.inj ht
    exact leads_some_iff.mpr ⟨_, _, List.append_assoc .., hb, Or.inl ⟨rest, rfl, hc⟩⟩
  | object hk hm =>
    simp only [List.cons_append, List.append_assoc, List.nil_append] at ht
    obtain ⟨rfl, rfl⟩ := List.cons.inj ht
    refine leads_some_iff.mpr (AfterBlanks.imp (fun _ => Or.inr) ?_)
    exact afterBlanks_keyThen_iff.mpr ⟨_, _, _, _, _, rest, rfl, hk, hm, hc⟩

/-- What is demanded behind the first character is the rest of a value. -/
theorem valueThen_of_leads_start (h : Leads root (start stack c) t) :
    ValueThen stack root (c :: t) := by
  unfold start at h
  simp only [leads_ite_iff, leads_none_iff, leads_some_iff, and_false, or_false] at h
  rcases h with ⟨rfl, h⟩ | ⟨-, ⟨rfl, h⟩ | ⟨-, ⟨rfl, h⟩ | ⟨-, -, h⟩⟩⟩
  · obtain ⟨content, text, rest, rfl, h, hc⟩ := h
    exact ⟨_, _, rest, by simp, .string h, hc⟩
  · obtain ⟨blanks, _, rfl, hb, ⟨rest, rfl, hc⟩ | h⟩ := h
    · exact ⟨_, _, rest, by simp, .emptyArray hb, hc⟩
    · obtain ⟨_, item, _, items, rest, ht, hi, hm, hc⟩ :=
        afterBlanks_valueThen_iff.mp ⟨blanks, _, rfl, hb, h⟩
      exact ⟨_, _, rest, by simp [ht], .array hi hm, hc⟩
  · obtain ⟨blanks, _, rfl, hb, ⟨rest, rfl, hc⟩ | h⟩ := h
    · exact ⟨_, _, rest, by simp, .emptyObject hb, hc⟩
    · obtain ⟨_, key, value, _, members, rest, ht, hk, hm, hc⟩ :=
        afterBlanks_keyThen_iff.mp ⟨blanks, _, rfl, hb, h⟩
      exact ⟨_, _, rest, by simp [ht], .object hk hm, hc⟩
  · obtain ⟨more, v, rest, rfl, -, hw, hc⟩ := h
    exact ⟨c :: more, v, rest, rfl, .word hw, hc⟩

/-- **The first character of a value** says what kind of value it is. -/
theorem valueThen_cons_iff : ValueThen stack root (c :: t) ↔ Leads root (start stack c) t := by
  constructor
  · intro h
    obtain ⟨written, v, rest, ht, hv, hc⟩ := h
    exact leads_start_of_isValue ht hv hc
  · exact valueThen_of_leads_start

/-! ## 6. Tokens and white space -/

theorem keyThen_cons_iff {before : List (Text × JsonValue)} :
    KeyThen stack root before (c :: t) ↔
      Leads root (if c = '"' then some (.string (some before) .text [], stack) else none) t := by
  rw [leads_ite_iff, leads_none_iff, and_false, or_false, leads_some_iff]
  constructor
  · rintro ⟨content, key, rest, ht, hk, h⟩
    obtain ⟨rfl, rfl⟩ := List.cons.inj ht
    exact ⟨rfl, content, key, rest, rfl, hk, h⟩
  · rintro ⟨rfl, content, key, rest, rfl, hk, h⟩
    exact ⟨content, key, rest, rfl, hk, h⟩

/-- The end of something empty, or what stands in it. -/
theorem end_or_iff {close : Char} {v : JsonValue} {P : Prop} {next : Option (State × List Frame)}
    (hP : P ↔ Leads root next t) (hnone : c = close → next = none) :
    (∃ rest, c :: t = close :: rest ∧ AfterBlanks (Closes stack v root) rest) ∨ P ↔
      Leads root (if c = close then some (.done v, stack) else next) t := by
  rw [leads_ite_iff, leads_some_iff, hP]
  constructor
  · rintro (⟨rest, ht, hc⟩ | h)
    · obtain ⟨rfl, rfl⟩ := List.cons.inj ht
      exact Or.inl ⟨rfl, hc⟩
    · refine Or.inr ⟨fun hc => ?_, h⟩
      rw [hnone hc] at h
      exact leads_none_iff.mp h
  · rintro (⟨rfl, hc⟩ | ⟨-, h⟩)
    · exact Or.inl ⟨t, rfl, hc⟩
    · exact Or.inr h

/-- **What is expected behind white space.** -/
theorem expects_cons_iff {state : State} (hs : state.skips = true) :
    Expects stack root state (c :: t) ↔ Leads root (token state stack c) t := by
  cases state with
  | value => exact valueThen_cons_iff
  | items =>
    refine end_or_iff valueThen_cons_iff ?_
    rintro rfl
    rfl
  | members =>
    refine end_or_iff keyThen_cons_iff ?_
    rintro rfl
    rfl
  | key before => exact keyThen_cons_iff
  | colon before key =>
    rw [token, leads_ite_iff, leads_none_iff, and_false, or_false, leads_some_iff]
    constructor
    · rintro ⟨rest, ht, h⟩
      obtain ⟨rfl, rfl⟩ := List.cons.inj ht
      exact ⟨rfl, h⟩
    · rintro ⟨rfl, h⟩
      exact ⟨t, rfl, h⟩
  | done v => exact closes_cons_iff
  | string => cases hs
  | word => cases hs

/-- Only a comma or a closing bracket may follow a value. -/
theorem follow_eq_none {v : JsonValue} (hcomma : c ≠ ',') (hsquare : c ≠ ']')
    (hcurly : c ≠ '\x7d') : follow v c stack = none := by
  match stack with
  | [] => rfl
  | .array before :: stack => exact (if_neg hcomma).trans (if_neg hsquare)
  | .object before key :: stack => exact (if_neg hcomma).trans (if_neg hcurly)

theorem start_of_isBlank (hc : isBlank c = true) : start stack c = none := by
  have hquote : c ≠ '"' := Text.ne_of_class hc rfl
  have hsquare : c ≠ '[' := Text.ne_of_class hc rfl
  have hcurly : c ≠ '\x7b' := Text.ne_of_class hc rfl
  have hword : ¬isWordChar c = true := by
    intro hw
    rw [isBlank_of_isWordChar hw] at hc
    cases hc
  rw [start, if_neg hquote, if_neg hsquare, if_neg hcurly, if_neg hword]

/-- White space is no token. -/
theorem token_of_isBlank (hc : isBlank c = true) (state : State) : token state stack c = none := by
  have hquote : c ≠ '"' := Text.ne_of_class hc rfl
  have hsquare : c ≠ ']' := Text.ne_of_class hc rfl
  have hcurly : c ≠ '\x7d' := Text.ne_of_class hc rfl
  cases state with
  | value => exact start_of_isBlank hc
  | items => exact (if_neg hsquare).trans (start_of_isBlank hc)
  | members => exact (if_neg hcurly).trans (if_neg hquote)
  | key before => exact if_neg hquote
  | colon before key => exact if_neg (Text.ne_of_class hc rfl)
  | done v => exact follow_eq_none (Text.ne_of_class hc rfl) hsquare hcurly
  | string => rfl
  | word => rfl

/-- White space may be skipped, and everything else is a token. -/
theorem demands_cons_iff_of_skips {state : State} (hs : state.skips = true) :
    Demands stack root state (c :: t) ↔ Leads root (step state stack c) t := by
  rw [step_of_skips hs, Demands, if_pos hs, afterBlanks_cons_iff, expects_cons_iff hs,
    leads_ite_iff, leads_some_iff, Demands, if_pos hs]
  by_cases hc : isBlank c = true
  · simp only [token_of_isBlank hc, leads_none_iff, hc, true_and, false_or, not_true_eq_false,
      false_and, or_false]
  · rw [or_iff_left fun h => hc h.1, or_iff_right fun h => hc h.1, and_iff_right hc]

/-! ## 7. Strings and words -/

section InString

variable {before : Option (List (Text × JsonValue))} {place : Place} {read : Text}

/-- What follows the closing quote. -/
theorem demands_closeString_iff : Demands stack root (closeString read before) t ↔
    StringThen stack root read before t := by
  cases before with
  | none => exact Iff.rfl
  | some before => exact Iff.rfl

/-- The closing quote of a string. -/
theorem demands_quote_iff : Demands stack root (.string before .text read) ('"' :: t) ↔
    StringThen stack root read before t := by
  constructor
  · intro h
    obtain ⟨content, text, rest, ht, hfrom, h⟩ := h
    cases content with
    | nil =>
      obtain ⟨-, rfl⟩ := fromPlace_nil_iff.mp hfrom
      obtain ⟨-, rfl⟩ := List.cons.inj ht
      rwa [List.append_nil] at h
    | cons d content =>
      -- content has no quote that is not escaped
      obtain ⟨rfl, -⟩ := List.cons.inj ht
      obtain ⟨⟨hne, -⟩, -⟩ := (isContent_plain_iff (by decide)).mp hfrom
      exact absurd rfl hne
  · intro h
    refine ⟨[], [], t, rfl, fromPlace_nil_iff.mpr ⟨rfl, rfl⟩, ?_⟩
    rwa [List.append_nil]

/-- **Inside a string.** -/
theorem demands_string_cons_iff : Demands stack root (.string before place read) (c :: t) ↔
    Leads root (step (.string before place read) stack c) t := by
  by_cases hq : place = .text ∧ c = '"'
  · have hstep : step (.string before place read) stack c = some (closeString read before, stack) :=
      if_pos hq
    rw [hstep, leads_some_iff, demands_closeString_iff, hq.1, hq.2]
    exact demands_quote_iff
  · have hstep : step (.string before place read) stack c = (stepInString place c).map
        fun next => (.string before next.1 (read ++ next.2), stack) := if_neg hq
    rw [hstep]
    constructor
    · intro h
      obtain ⟨content, text, rest, ht, hfrom, h⟩ := h
      cases content with
      | nil =>
        obtain ⟨hplace, -⟩ := fromPlace_nil_iff.mp hfrom
        exact absurd ⟨hplace, (List.cons.inj ht).1⟩ hq
      | cons d content =>
        obtain ⟨rfl, rfl⟩ := List.cons.inj ht
        obtain ⟨place', more, text, hs, rfl, hfrom'⟩ := (fromPlace_cons_iff hq).mp hfrom
        rw [← List.append_assoc] at h
        rw [hs]
        exact leads_some_iff.mpr ⟨content, text, rest, rfl, hfrom', h⟩
    · intro h
      obtain ⟨state, stack', hs, h⟩ := h
      obtain ⟨⟨place', more⟩, hs', he⟩ := Option.map_eq_some_iff.mp hs
      cases he
      obtain ⟨content, text, rest, rfl, hfrom, h⟩ := h
      rw [List.append_assoc] at h
      exact ⟨c :: content, more ++ text, rest, rfl,
        (fromPlace_cons_iff hq).mpr ⟨place', more, text, hs', rfl, hfrom⟩, h⟩

end InString

/-- What follows a value does not begin with a character of a word. -/
theorem not_isWordChar_of_demands {v : JsonValue} (h : Demands stack root (.done v) (c :: t)) :
    ¬isWordChar c = true := by
  intro hc
  have hstep : step (.done v) stack c = none := by
    rw [step_of_skips rfl, isBlank_of_isWordChar hc, if_neg Bool.false_ne_true]
    exact follow_eq_none (Text.ne_of_class hc rfl) (Text.ne_of_class hc rfl)
      (Text.ne_of_class hc rfl)
  rw [demands_cons_iff_of_skips rfl, hstep] at h
  exact leads_none_iff.mp h

/-- Inside a word. -/
theorem demands_word_cons_iff {read : Text} :
    Demands stack root (.word read) (c :: t) ↔ Leads root (step (.word read) stack c) t := by
  by_cases hc : isWordChar c = true
  · have hstep : step (.word read) stack c = some (.word (read ++ [c]), stack) := if_pos hc
    rw [hstep, leads_some_iff]
    constructor
    · rintro ⟨more, v, rest, ht, hmore, hw, h⟩
      cases more with
      | nil =>
        obtain rfl : c :: t = rest := ht
        exact absurd hc (not_isWordChar_of_demands h)
      | cons d more =>
        obtain ⟨rfl, rfl⟩ := List.cons.inj ht
        rw [List.append_cons] at hw
        exact ⟨more, v, rest, rfl, (List.forall_mem_cons.mp hmore).2, hw, h⟩
    · rintro ⟨more, v, rest, rfl, hmore, hw, h⟩
      rw [← List.append_cons] at hw
      exact ⟨c :: more, v, rest, rfl, List.forall_mem_cons.mpr ⟨hc, hmore⟩, hw, h⟩
  · have hstep : step (.word read) stack c =
        (word? read).bind fun v => step (.done v) stack c := if_neg hc
    rw [hstep]
    constructor
    · rintro ⟨more, v, rest, ht, hmore, hw, h⟩
      cases more with
      | nil =>
        obtain rfl : c :: t = rest := ht
        have hd : Demands stack root (.done v) (c :: t) := h
        rw [List.append_nil, ← word?_eq_some_iff] at hw
        rw [hw]
        exact (demands_cons_iff_of_skips rfl).mp hd
      | cons d more =>
        obtain ⟨rfl, -⟩ := List.cons.inj ht
        exact absurd (hmore c List.mem_cons_self) hc
    · rintro ⟨state, stack', hs, h⟩
      obtain ⟨v, hw, hs⟩ := Option.bind_eq_some_iff.mp hs
      rw [word?_eq_some_iff] at hw
      refine ⟨[], v, c :: t, rfl, nofun, ?_, (demands_cons_iff_of_skips rfl).mpr ⟨_, _, hs, h⟩⟩
      rwa [List.append_nil]

/-- **One step of the reader.** What is demanded in a state is one character, and what is demanded
    where it leads to. -/
theorem demands_cons_iff {state : State} :
    Demands stack root state (c :: t) ↔ Leads root (step state stack c) t := by
  cases state with
  | string before place read => exact demands_string_cons_iff
  | word read => exact demands_word_cons_iff
  | _ => exact demands_cons_iff_of_skips rfl

/-! ## 8. Runs -/

theorem not_closes_nil {frame : Frame} {v : JsonValue} : ¬Closes (frame :: stack) v root [] := by
  cases frame with
  | array before =>
    rintro ⟨more, items, rest, ht, -⟩
    cases more <;> cases ht
  | object before key =>
    rintro ⟨more, members, rest, ht, -⟩
    cases more <;> cases ht

theorem not_valueThen_nil : ¬ValueThen stack root [] := by
  rintro ⟨written, v, rest, ht, hv, -⟩
  obtain ⟨rfl, -⟩ := List.append_eq_nil_iff.mp ht.symm
  cases hv with
  | word hw => exact isWord_ne_nil hw rfl

theorem not_keyThen_nil {before : List (Text × JsonValue)} : ¬KeyThen stack root before [] := by
  rintro ⟨content, key, rest, ht, -⟩
  cases ht

/-- **Where a text may end**, nothing more is demanded. -/
theorem demands_nil_iff {state : State} :
    Demands stack root state [] ↔ finish state stack = some root := by
  have hclosed : ∀ v, AfterBlanks (Closes stack v root) [] ↔ stack = [] ∧ v = root := by
    intro v
    rw [afterBlanks_nil_iff]
    cases stack with
    | nil => exact and_congr_left' (iff_of_true rfl rfl)
    | cons frame stack => exact iff_of_false not_closes_nil (fun h => nomatch h.1)
  cases state with
  | value => exact iff_of_false (mt afterBlanks_nil_iff.mp not_valueThen_nil) nofun
  | items =>
    refine iff_of_false (mt afterBlanks_nil_iff.mp ?_) nofun
    rintro (⟨rest, ht, -⟩ | h)
    · cases ht
    · exact not_valueThen_nil h
  | members =>
    refine iff_of_false (mt afterBlanks_nil_iff.mp ?_) nofun
    rintro (⟨rest, ht, -⟩ | h)
    · cases ht
    · exact not_keyThen_nil h
  | key before => exact iff_of_false (mt afterBlanks_nil_iff.mp not_keyThen_nil) nofun
  | colon before key =>
    refine iff_of_false (mt afterBlanks_nil_iff.mp ?_) nofun
    rintro ⟨rest, ht, -⟩
    cases ht
  | done v =>
    refine (hclosed v).trans ?_
    cases stack with
    | nil => exact (and_iff_right rfl).trans (Option.some.injEq v root ▸ Iff.rfl)
    | cons frame stack => exact iff_of_false (fun h => nomatch h.1) nofun
  | string before place read =>
    refine iff_of_false ?_ nofun
    rintro ⟨content, text, rest, ht, -⟩
    cases content <;> cases ht
  | word read =>
    constructor
    · rintro ⟨more, v, rest, ht, -, hw, h⟩
      obtain ⟨rfl, rfl⟩ := List.append_eq_nil_iff.mp ht.symm
      obtain ⟨rfl, rfl⟩ := (hclosed v).mp h
      rw [List.append_nil, ← word?_eq_some_iff] at hw
      exact hw
    · intro h
      cases stack with
      | nil =>
        rw [finish, word?_eq_some_iff] at h
        exact ⟨[], root, [], rfl, nofun, (List.append_nil read).symm ▸ h,
          (hclosed root).mpr ⟨rfl, rfl⟩⟩
      | cons frame stack => cases h

/-- **A run gives a value** exactly if this is the value that the text has to denote. -/
theorem run_eq_some_iff {state : State} :
    run state stack t = some root ↔ Demands stack root state t := by
  induction t generalizing state stack with
  | nil => exact demands_nil_iff.symm
  | cons c t ih =>
    rw [run, demands_cons_iff, Option.bind_eq_some_iff]
    constructor
    · rintro ⟨⟨state', stack'⟩, hs, h⟩
      exact ⟨state', stack', hs, ih.mp h⟩
    · rintro ⟨state', stack', hs, h⟩
      exact ⟨(state', stack'), hs, ih.mpr h⟩

end LookupLog.JsonReader

namespace LookupLog.JsonValue

open JsonGrammar JsonReader

/-- **A text is read as a value exactly if it denotes it.** -/
theorem read?_eq_some_iff {t : Text} {v : JsonValue} : read? t = some v ↔ IsElement t v := by
  rw [read?, run_eq_some_iff]
  constructor
  · rintro ⟨before, _, rfl, hb, written, v, _, rfl, hv, after, _, rfl, ha, rfl, rfl⟩
    rw [List.append_nil]
    exact .mk hb hv ha
  · rintro ⟨hb, hv, ha⟩
    exact ⟨_, _, rfl, hb, _, v, _, rfl, hv, _, [], (List.append_nil _).symm, ha, rfl, rfl⟩

example : read? "[1E2, \"\\ud834\\udd1e\"]".toList =
    some (.array [.number ⟨false, 1, 2⟩, .string ['𝄞']]) := rfl

/-- **No text denotes two values.** -/
theorem eq_of_isElement {t : Text} {v w : JsonValue} (hv : IsElement t v) (hw : IsElement t w) :
    v = w :=
  Option.some.inj ((read?_eq_some_iff.mpr hv).symm.trans (read?_eq_some_iff.mpr hw))

end LookupLog.JsonValue
