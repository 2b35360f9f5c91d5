/-
**Values are read as they were written.**

Whatever containers are open, the tokens of a value take the reading from where a value must come to
where that value is complete.  This holds for an item of an array and for the value of a member as
well, so it follows by induction on the value.  Since both layouts spell these tokens, a text of
either layout is read as the value it was written for.

Main definitions:

* `RemoteDisplay.Json.Reads` — some tokens take one reading to another;
* `RemoteDisplay.Json.Reading.Awaits` — a value may come next.

Main results:

* `RemoteDisplay.Json.reads_tokens` — the tokens of a value are read as that value;
* `RemoteDisplay.Json.parse?_compactText`, `RemoteDisplay.Json.parse?_prettyText` — **a value whose
  numbers are integers is read back from the text that was written for it, in both layouts**.
-/
import RemoteDisplay.Proofs.Json.Layout

set_option relaxedAutoImplicit false
set_option autoImplicit false

namespace RemoteDisplay.Json

/-! ### Reading some tokens -/

variable {r r' r'' : Reading} {t : Token} {ts us : List Token}

/-- Some tokens take one reading to another. -/
def Reads (r : Reading) (ts : List Token) (r' : Reading) : Prop :=
  ts.foldlM Reading.next? r = some r'

theorem Reads.append (h : Reads r ts r') (h' : Reads r' us r'') : Reads r (ts ++ us) r'' := by
  unfold Reads at h h' ⊢
  rw [List.foldlM_append, h]
  exact h'

theorem reads_one (h : r.next? t = some r') : Reads r [t] r' := by
  unfold Reads
  rw [List.foldlM_cons, h]
  rfl

/-- A value may come next, within the containers that are open. -/
def Reading.Awaits (r : Reading) (outer : List Outer) : Prop :=
  ∀ t, t ≠ .closeBracket → r.next? t = begin? outer t

theorem awaits_value (outer : List Outer) : (Reading.value outer).Awaits outer := fun _ _ => rfl

/-- The first item of an array is read like any other. -/
theorem awaits_firstItem (outer : List Outer) :
    (Reading.firstItem outer).Awaits (.array [] :: outer) := by
  intro t ht
  cases t with
  | closeBracket => exact absurd rfl ht
  | _ => rfl

/-! ### The tokens of a value -/

mutual

/-- The tokens of a value are read as that value. -/
theorem reads_tokens (r : Reading) (outer : List Outer) (v : Json) (h : r.Awaits outer) :
    Reads r v.tokens (.after v outer) := by
  cases v with
  | null | bool _ | integer _ | decimal _ | string _ =>
    exact reads_one (h _ (by simp))
  | array items =>
    have hbegin : Reads r [.openBracket] (.firstItem outer) := reads_one (h _ (by simp))
    by_cases hitems : items = []
    · rw [hitems]
      exact hbegin.append (reads_one rfl)
    · exact hbegin.append (reads_itemTokens _ outer [] items (awaits_firstItem outer) hitems)
  | object members =>
    have hbegin : Reads r [.openBrace] (.firstKey outer) := reads_one (h _ (by simp))
    by_cases hmembers : members = []
    · rw [hmembers]
      exact hbegin.append (reads_one rfl)
    · exact hbegin.append (reads_memberTokens _ outer [] members (fun _ => rfl) hmembers)

/-- The tokens of the remaining items of an array, and of its end. -/
theorem reads_itemTokens (r : Reading) (outer : List Outer) (done items : List Json)
    (h : r.Awaits (.array done :: outer)) (hitems : items ≠ []) :
    Reads r (List.intercalate [.comma] (itemTokens items) ++ [.closeBracket])
      (.after (.array (done.reverse ++ items)) outer) := by
  cases items with
  | nil => exact absurd rfl hitems
  | cons v rest =>
    have hitem := reads_tokens r (.array done :: outer) v h
    cases rest with
    | nil =>
      have hend : Reads (.after v (.array done :: outer)) [.closeBracket]
          (.after (.array (v :: done).reverse) outer) := reads_one rfl
      simpa [itemTokens] using hitem.append hend
    | cons w rest =>
      have hcomma : Reads (.after v (.array done :: outer)) [.comma]
          (.value (.array (v :: done) :: outer)) := reads_one rfl
      have hrest := reads_itemTokens _ outer (v :: done) (w :: rest) (awaits_value _)
        (List.cons_ne_nil w rest)
      simpa [itemTokens, List.intercalate_cons_cons] using (hitem.append hcomma).append hrest

/-- The tokens of the remaining members of an object, and of its end. -/
theorem reads_memberTokens (r : Reading) (outer : List Outer)
    (done members : List (Option String × Json))
    (h : ∀ k, r.next? (.string k) = some (.colon done k outer)) (hmembers : members ≠ []) :
    Reads r (List.intercalate [.comma] (memberTokens members) ++ [.closeBrace])
      (.after (.object (done.reverse ++ members)) outer) := by
  cases members with
  | nil => exact absurd rfl hmembers
  | cons m rest =>
    obtain ⟨k, v⟩ := m
    have hkey : Reads r [.string k, .colon] (.value (.object done k :: outer)) :=
      Reads.append (reads_one (h k)) (reads_one rfl)
    have hmember := hkey.append (reads_tokens _ _ v (awaits_value (.object done k :: outer)))
    cases rest with
    | nil =>
      have hend : Reads (.after v (.object done k :: outer)) [.closeBrace]
          (.after (.object ((k, v) :: done).reverse) outer) := reads_one rfl
      simpa [memberTokens] using hmember.append hend
    | cons n rest =>
      have hcomma : Reads (.after v (.object done k :: outer)) [.comma]
          (.key ((k, v) :: done) outer) := reads_one rfl
      have hrest := reads_memberTokens (.key ((k, v) :: done) outer) outer ((k, v) :: done)
        (n :: rest) (fun _ => rfl) (List.cons_ne_nil n rest)
      simpa [memberTokens, List.intercalate_cons_cons] using (hmember.append hcomma).append hrest

end

theorem ofTokens?_tokens (v : Json) : ofTokens? v.tokens = some v := by
  have hread : v.tokens.foldlM Reading.next? (.value []) = some (.after v []) :=
    reads_tokens _ _ v (awaits_value [])
  rw [ofTokens?, hread]
  rfl

/-! ### Texts -/

/-- A text that spells the tokens of a value is read as that value, whatever blanks follow. -/
theorem parse?_of_spells {text : List Char} {v : Json} (h : Spells text v.tokens)
    (blanks : List Char) (hblanks : ∀ c ∈ blanks, isSpace c = true) :
    parse? (String.ofList (text ++ blanks)) = some v := by
  have hread : Scan.read? ⟨[], .between⟩ (text ++ blanks) = some v.tokens.reverse := by
    have hend := stands_of_spaces hblanks v.tokens.reverse []
    rw [List.append_nil] at hend
    rw [h [] blanks (breaks_of_spaces hblanks), List.append_nil, hend]
    rfl
  rw [parse?, String.toList_ofList, tokens?_eq, hread, Option.map_some, List.reverse_reverse]
  exact ofTokens?_tokens v

variable {v : Json}

/-- A value in one line is read back. -/
theorem parse?_compactText (h : v.integral = true) : parse? v.compactText = some v := by
  simpa [compactText] using parse?_of_spells (spells_compact v h) [] (by simp)

/-- A value spread over lines is read back. -/
theorem parse?_prettyText (h : v.integral = true) : parse? v.prettyText = some v := by
  simpa [prettyText, pretty] using parse?_of_spells (spells_prettyAt 0 v h) [] (by simp)

/-- A value spread over lines is read back if its last line is ended. -/
theorem parse?_prettyText_append (h : v.integral = true) :
    parse? (v.prettyText ++ "\n") = some v := by
  have hread := parse?_of_spells (spells_prettyAt 0 v h) ['\n'] (by simp [isSpace])
  rwa [String.ofList_append] at hread

end RemoteDisplay.Json
