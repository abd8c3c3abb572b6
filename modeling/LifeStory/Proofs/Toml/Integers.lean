import LifeStory.Document

/-!
# Integers of a document

A document writes integers as signed words: one past the greatest is refused, although a field may
hold it. So it is with every value that a key of the root stands for, whatever tables the headers
and keys of the document make, and a day of a configuration that is read has no more ticks than a
signed word holds.

    value? depth cs = some (d, rest) → d.Signed                          (signed_value?)
    t.root.Signed → t.extend? statement = some u → u.root.Signed         (signed_extend?)
    Config.ofDocument s = .ok config → config.ticksPerDay.toNat < 2 ^ 63
                                                                   (ticksPerDay_lt_of_document)
-/

namespace LifeStory

/-- If the datum is an integer, a signed word holds it. -/
def Datum.Signed (d : Datum) : Prop := ∀ n, d = .integer n → n ≤ Word.greatest Int64

theorem Datum.signed_word (a : Int64) : (Datum.word a).Signed := by
  rintro _ ⟨⟩
  exact Word.toInt_le_greatest a

namespace Toml

/-! ## Values -/

theorem signed_based? {base : Nat} {cs : List Char} {d : Datum} (h : based? base cs = some d) :
    d.Signed := by
  obtain ⟨digits, -, h⟩ := Option.bind_eq_some_iff.1 h
  obtain ⟨a, -, ⟨⟩⟩ := Option.bind_eq_some_iff.1 h
  exact Datum.signed_word a

theorem signed_integer? {cs : List Char} {d : Datum} (h : integer? cs = some d) : d.Signed := by
  unfold integer? at h
  split at h
  · exact signed_based? h
  · exact signed_based? h
  · exact signed_based? h
  · obtain ⟨digits, -, h⟩ := Option.bind_eq_some_iff.1 h
    obtain ⟨a, -, ⟨⟩⟩ := Option.bind_eq_some_iff.1 h
    exact Datum.signed_word a

theorem signed_real? {cs : List Char} {d : Datum} (h : real? cs = some d) : d.Signed := by
  rintro n rfl
  unfold real? at h
  dsimp only at h
  split at h
  · cases h
  · cases h
  · obtain ⟨size, -, h⟩ := Option.bind_eq_some_iff.1 h
    split at h
    · cases h
    · split at h
      · cases h
      · cases h

theorem signed_ofWord? {cs : List Char} {d : Datum} (h : ofWord? cs = some d) : d.Signed := by
  unfold ofWord? at h
  split at h
  · rintro n rfl
    cases h
  · rintro n rfl
    cases h
  · split at h
    · rintro n rfl
      cases h
    · split at h
      · next d' hreal =>
        cases h
        exact signed_real? hreal
      · exact signed_integer? h

theorem signed_word? {cs rest : List Char} {d : Datum} (h : word? cs = some (d, rest)) :
    d.Signed := by
  unfold word? at h
  dsimp only at h
  split at h
  · rintro n rfl
    split at h <;> cases h
  · obtain ⟨d', hword, ⟨⟩⟩ := Option.map_eq_some_iff.1 h
    exact signed_ofWord? hword

/-- A value with quotes or brackets is no integer. -/
theorem signed_value? {depth : Nat} {cs rest : List Char} {d : Datum}
    (h : value? depth cs = some (d, rest)) : d.Signed := by
  unfold value? at h
  split at h
  · rintro n rfl
    obtain ⟨text, -, htext⟩ := Option.map_eq_some_iff.1 h
    cases htext
  · rintro n rfl
    obtain ⟨text, -, htext⟩ := Option.map_eq_some_iff.1 h
    cases htext
  · rintro n rfl
    split at h
    · cases h
    · obtain ⟨items, -, hitems⟩ := Option.map_eq_some_iff.1 h
      cases hitems
  · rintro n rfl
    split at h
    · cases h
    · unfold inlineTable? at h
      split at h
      · cases h
      · obtain ⟨members, -, hmembers⟩ := Option.map_eq_some_iff.1 h
        cases hmembers
  · exact signed_word? h

/-! ## Statements -/

/-- What the statement assigns, if it does, is a signed word if it is an integer. -/
def Statement.Signed (statement : Statement) : Prop :=
  ∀ path name d, statement = .assign path name d → d.Signed

theorem signed_statement? {cs rest : List Char} {statement : Statement}
    (h : statement? cs = some (statement, rest)) : statement.Signed := by
  rintro path name d rfl
  unfold statement? at h
  split at h
  · unfold header? at h
    split at h
    · obtain ⟨key, -, h⟩ := Option.bind_eq_some_iff.1 h
      dsimp only at h
      split at h <;> cases h
    · obtain ⟨key, -, h⟩ := Option.bind_eq_some_iff.1 h
      dsimp only at h
      split at h <;> cases h
  · obtain ⟨key, -, h⟩ := Option.bind_eq_some_iff.1 h
    dsimp only at h
    split at h
    · obtain ⟨value, hvalue, ⟨⟩⟩ := Option.bind_eq_some_iff.1 h
      exact signed_value? hvalue
    · cases h

theorem signed_statements? {cs : List Char} {statements : List Statement}
    (h : statements? cs = some statements) : ∀ statement ∈ statements, statement.Signed := by
  induction cs using statements?.induct generalizing statements with
  | case1 cs hempty =>
    rw [statements?.eq_def, hempty] at h
    cases h
    exact fun _ h => nomatch h
  | case2 cs hfront ih =>
    rw [statements?.eq_def] at h
    split at h
    · next hempty => exact absurd hempty hfront
    · obtain ⟨⟨first, rest⟩, hfirst, h⟩ := Option.bind_eq_some_iff.1 h
      obtain ⟨rest, -, h⟩ := Option.bind_eq_some_iff.1 h
      split at h
      · next hshorter =>
        obtain ⟨more, hmore, ⟨⟩⟩ := Option.bind_eq_some_iff.1 h
        intro statement hmem
        obtain rfl | hmem := List.mem_cons.1 hmem
        · exact signed_statement? hfirst
        · exact ih rest hshorter hmore statement hmem
      · cases h

/-! ## Tables -/

/-- If the node is a value, it is a signed word if it is an integer. -/
def Node.Signed (node : Node) : Prop := ∀ d, node = .value d → d.Signed

theorem Node.signed_value {d : Datum} (h : d.Signed) : (Node.value d).Signed := by
  rintro _ ⟨⟩
  exact h

theorem Node.signed_table (origin : TableOrigin) (members : Members) :
    (Node.table origin members).Signed :=
  fun _ h => nomatch h

theorem Node.signed_tables (items : List Members) : (Node.tables items).Signed :=
  fun _ h => nomatch h

/-- What the members stand for are signed words where they are integers. -/
def Members.Signed (ms : Members) : Prop := ∀ m ∈ ms, m.2.Signed

namespace Members

variable {ms new : Members} {name : String} {node : Node}

theorem Signed.append (h : Signed ms) (hnode : node.Signed) : Signed (ms ++ [(name, node)]) := by
  intro m hm
  obtain hm | hm := List.mem_append.1 hm
  · exact h m hm
  · obtain rfl := List.mem_singleton.1 hm
    exact hnode

theorem Signed.replace (h : Signed ms) (hnode : node.Signed) : Signed (ms.replace name node) := by
  intro m hm
  obtain ⟨before, hbefore, rfl⟩ := List.mem_map.1 hm
  split
  · exact hnode
  · exact h before hbefore

/-- A change below the root does not touch the values of the root. -/
theorem Signed.changeAt? {dotted : Bool} {f : TableOrigin → Members → Option Members}
    (hf : ∀ origin ms new, f origin ms = some new → Signed ms → Signed new)
    {path : List String} {origin : TableOrigin} (hms : Signed ms)
    (h : Members.changeAt? dotted f path origin ms = some new) : Signed new := by
  cases path with
  | nil => exact hf origin ms new h hms
  | cons name path =>
    unfold Members.changeAt? at h
    split at h
    · obtain ⟨below, -, ⟨⟩⟩ := Option.map_eq_some_iff.1 h
      exact hms.append (Node.signed_table _ _)
    · cases h
    · cases h
    · obtain ⟨below, -, ⟨⟩⟩ := Option.map_eq_some_iff.1 h
      exact hms.replace (Node.signed_tables _)
    · split at h
      · cases h
      · obtain ⟨below, -, ⟨⟩⟩ := Option.map_eq_some_iff.1 h
        exact hms.replace (Node.signed_table _ _)

theorem Signed.assign? {path : List String} {d : Datum} (hd : d.Signed) (hms : Signed ms)
    (h : ms.assign? path name d = some new) : Signed new := by
  refine Signed.changeAt? ?_ hms h
  intro origin ms new hput hms
  split at hput
  · unfold add? at hput
    split at hput
    · cases hput
    · cases hput
      exact hms.append (Node.signed_value hd)
  · cases hput

theorem Signed.open? {origin : TableOrigin} (hms : Signed ms)
    (h : Members.open? name origin ms = some new) : Signed new := by
  unfold Members.open? at h
  split at h
  · cases h
    exact hms.append (Node.signed_table _ _)
  · cases h
    exact hms.replace (Node.signed_table _ _)
  · cases h

theorem Signed.openNext? {origin : TableOrigin} (hms : Signed ms)
    (h : Members.openNext? name origin ms = some new) : Signed new := by
  unfold Members.openNext? at h
  split at h
  · cases h
    exact hms.append (Node.signed_tables _)
  · cases h
    exact hms.replace (Node.signed_tables _)
  · cases h

end Members

theorem signed_extend? {t u : Draft} {statement : Statement} (hstatement : statement.Signed)
    (ht : t.root.Signed) (h : t.extend? statement = some u) : u.root.Signed := by
  cases statement with
  | header path name =>
    obtain ⟨root, hroot, ⟨⟩⟩ := Option.map_eq_some_iff.1 h
    exact ht.changeAt? (fun _ _ _ h hms => hms.open? h) hroot
  | nextHeader path name =>
    obtain ⟨root, hroot, ⟨⟩⟩ := Option.map_eq_some_iff.1 h
    exact ht.changeAt? (fun _ _ _ h hms => hms.openNext? h) hroot
  | assign path name d =>
    obtain ⟨root, hroot, ⟨⟩⟩ := Option.map_eq_some_iff.1 h
    exact ht.changeAt? (fun _ _ _ h hms => hms.assign? (hstatement path name d rfl) h) hroot

theorem signed_foldlM_extend? {statements : List Statement} {t u : Draft}
    (hstatements : ∀ statement ∈ statements, statement.Signed) (ht : t.root.Signed)
    (h : statements.foldlM Draft.extend? t = some u) : u.root.Signed := by
  induction statements generalizing t with
  | nil =>
    cases h
    exact ht
  | cons statement rest ih =>
    rw [List.foldlM_cons] at h
    obtain ⟨next, hnext, h⟩ := Option.bind_eq_some_iff.1 h
    refine ih (fun statement hmem => hstatements statement (List.mem_cons_of_mem _ hmem)) ?_ h
    exact signed_extend? (hstatements statement List.mem_cons_self) ht hnext

theorem mem_membersToData {ms : Members} {m : String × Datum} (h : m ∈ Node.membersToData ms) :
    ∃ before ∈ ms, before.2.toDatum = m.2 := by
  induction ms with
  | nil => cases h
  | cons before rest ih =>
    unfold Node.membersToData at h
    obtain rfl | h := List.mem_cons.1 h
    · exact ⟨before, List.mem_cons_self, rfl⟩
    · obtain ⟨found, hfound, hdatum⟩ := ih h
      exact ⟨found, List.mem_cons_of_mem _ hfound, hdatum⟩

/-- What a document writes is a table, whose integers are signed words. -/
theorem exists_members_of_read? {s : String} {d : Datum} (h : read? s = some d) :
    ∃ members, d = .table members ∧ ∀ m ∈ members, m.2.Signed := by
  obtain ⟨statements, hstatements, h⟩ := Option.bind_eq_some_iff.1 h
  obtain ⟨t, ht, rfl⟩ := Option.map_eq_some_iff.1 h
  have hroot : t.root.Signed :=
    signed_foldlM_extend? (signed_statements? hstatements) (fun _ h => absurd h List.not_mem_nil) ht
  refine ⟨_, rfl, ?_⟩
  intro m hm
  obtain ⟨before, hbefore, hdatum⟩ := mem_membersToData hm
  rw [← hdatum]
  intro n hn
  cases hnode : before.2 with
  | value d =>
    rw [hnode] at hn
    exact hroot before hbefore d hnode n hn
  | table origin members =>
    rw [hnode] at hn
    cases hn
  | tables items =>
    rw [hnode] at hn
    cases hn

end Toml

namespace Config

theorem ticksPerDay_lt_of_ofDatum? {members : List (String × Datum)} {config : Config}
    (signed : ∀ m ∈ members, m.2.Signed) (h : ofDatum? true (.table members) = some config) :
    config.ticksPerDay.toNat < 0x8000000000000000 := by
  obtain ⟨fields, hfields, h⟩ := Option.bind_eq_some_iff.1 h
  obtain ⟨ticks, hticks, h⟩ := Option.bind_eq_some_iff.1 h
  have hconfig : config.ticksPerDay = ticks := by
    iterate 15 obtain ⟨_, -, h⟩ := Option.bind_eq_some_iff.1 h
    cases h
    rfl
  have hmembers : ∀ m ∈ fields.members, m ∈ members := by
    unfold Fields.of? at hfields
    dsimp only at hfields
    split at hfields
    · cases hfields
      exact fun m hm => (List.mem_filter.1 hm).1
    · cases hfields
  rw [hconfig]
  unfold Fields.defaulted at hticks
  split at hticks
  · cases hticks
    decide
  · next d hd =>
    obtain ⟨before, after, hsplit, -⟩ := List.lookup_eq_some_iff.1 hd
    have hmem : ("ticks_per_day", d) ∈ members := by
      apply hmembers
      rw [hsplit]
      exact List.mem_append_right _ List.mem_cons_self
    cases d with
    | integer n =>
      have hticks' : (ticks.toNat : Int) = n := Word.ofInt?_eq_some_iff.1 hticks
      have hsigned : n ≤ 0x7FFFFFFFFFFFFFFF := signed _ hmem n rfl
      omega
    | _ => cases hticks

/-- A day of a configuration that a document writes has no more ticks than a signed word holds. -/
theorem ticksPerDay_lt_of_document {s : String} {config : Config}
    (h : Config.ofDocument s = .ok config) : config.ticksPerDay.toNat < 0x8000000000000000 := by
  unfold ofDocument at h
  split at h
  · cases h
  · next written hread =>
    have hconfig : written = config := by
      unfold checked at h
      split at h
      · cases h
      · cases h
        rfl
    obtain ⟨d, hd, hwritten⟩ := Option.bind_eq_some_iff.1 hread
    obtain ⟨members, rfl, hsigned⟩ := Toml.exists_members_of_read? hd
    rw [← hconfig]
    exact ticksPerDay_lt_of_ofDatum? hsigned hwritten

end Config

end LifeStory
