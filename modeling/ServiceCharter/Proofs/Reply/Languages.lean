import Mathlib.Data.List.Nodup
import Mathlib.Data.List.Pairwise
import Mathlib.Data.List.Sort
import ServiceCharter.Proofs.Json.Objects
import ServiceCharter.Proofs.Table
import ServiceCharter.Reply.Envelope

/-!
# Envelopes in two languages

Each member of an envelope has an English and a Portuguese name, and it makes no difference which is
used, for each member by itself (`parse_exchanged`). The members of an object are looked at in the
order of their names, and an exchange of names may change that order. It does not change the order
of the members that count: in either language the error comes first, then the result, and then
success (`Member.rank_le_of_lt`). So the same problem is found first.

An object with both names of a member is refused, whatever their values are.
-/

namespace ServiceCharter.Reply

/-! ### Names -/

namespace Member

private theorem ofName?_eq_some_iff {name : String} {m : Member} :
    ofName? name = some m ↔ name = m.name ∨ name = m.portugueseName := by
  constructor
  · intro h
    have hfound := List.find?_some h
    rw [Bool.or_eq_true, beq_iff_eq, beq_iff_eq] at hfound
    exact hfound.imp Eq.symm Eq.symm
  · rintro (rfl | rfl) <;> cases m <;> rfl

private theorem name_ne_portugueseName (m : Member) : m.name ≠ m.portugueseName := by
  cases m <;> decide

/-- The other name of the member. -/
def otherName (m : Member) (name : String) : String :=
  if name = m.name then m.portugueseName else m.name

private theorem ofName?_otherName (m : Member) (name : String) :
    ofName? (m.otherName name) = some m := by
  rw [ofName?_eq_some_iff, otherName]
  split
  · exact Or.inr rfl
  · exact Or.inl rfl

theorem otherName_otherName {m : Member} {name : String} (h : ofName? name = some m) :
    m.otherName (m.otherName name) = name := by
  rcases ofName?_eq_some_iff.1 h with rfl | rfl <;> cases m <;> rfl

/-- The place of the member in the order of the names. -/
def rank : Member → Nat
  | error => 0
  | result => 1
  | success => 2

theorem rank_injective {m m' : Member} (h : m.rank = m'.rank) : m = m' := by
  cases m <;> cases m' <;> first | rfl | cases h

/-- In whatever language the names are, they are in the order of the members. -/
theorem rank_le_of_lt {m m' : Member} {name name' : String} (h : ofName? name = some m)
    (h' : ofName? name' = some m') (hlt : name < name') : m.rank ≤ m'.rank := by
  by_contra hrank
  rw [ofName?_eq_some_iff] at h h'
  revert hlt
  rcases h with rfl | rfl <;> rcases h' with rfl | rfl <;> cases m <;> cases m' <;>
    first
    | exact absurd (by decide) hrank
    | decide +kernel

end Member

/-- The name with those of the members in `swapped` exchanged for their other names. -/
def exchange (swapped : Member → Bool) (name : String) : String :=
  match Member.ofName? name with
  | some m => if swapped m then m.otherName name else name
  | none => name

variable {swapped : Member → Bool} {o : Table Json.Value}

private theorem exchange_of_ofName? {name : String} {m : Member}
    (h : Member.ofName? name = some m) :
    exchange swapped name = if swapped m then m.otherName name else name := by
  rw [exchange, h]

private theorem ofName?_exchange (name : String) :
    Member.ofName? (exchange swapped name) = Member.ofName? name := by
  cases h : Member.ofName? name with
  | none => rw [exchange, h, h]
  | some m =>
    rw [exchange_of_ofName? h]
    split
    · exact m.ofName?_otherName name
    · exact h

private theorem exchange_name (m : Member) :
    exchange swapped m.name = if swapped m then m.portugueseName else m.name := by
  rw [exchange_of_ofName? (Member.ofName?_eq_some_iff.2 (Or.inl rfl)), Member.otherName, if_pos rfl]

private theorem exchange_portugueseName (m : Member) :
    exchange swapped m.portugueseName = if swapped m then m.name else m.portugueseName := by
  rw [exchange_of_ofName? (Member.ofName?_eq_some_iff.2 (Or.inr rfl)), Member.otherName,
    if_neg m.name_ne_portugueseName.symm]

theorem exchange_exchange (name : String) : exchange swapped (exchange swapped name) = name := by
  cases h : Member.ofName? name with
  | none =>
    have hname : exchange swapped name = name := by rw [exchange, h]
    rw [hname, hname]
  | some m =>
    rw [exchange_of_ofName? ((ofName?_exchange name).trans h), exchange_of_ofName? h]
    split
    · exact Member.otherName_otherName h
    · rfl

theorem exchange_injective : Function.Injective (exchange swapped) :=
  Function.LeftInverse.injective exchange_exchange

/-- The object with the names of the members in `swapped` exchanged for their other names. -/
def renamed (swapped : Member → Bool) (o : Table Json.Value) : Table Json.Value :=
  Table.ofList (o.map fun e => (exchange swapped e.1, e.2))

private theorem sorted_renamed : (renamed swapped o).Sorted := Table.Sorted.ofList _

/-- The entries of an object stay, under the exchanged names. -/
theorem mem_renamed_iff (ho : o.Sorted) {name : String} {v : Json.Value} :
    (name, v) ∈ renamed swapped o ↔ (exchange swapped name, v) ∈ o := by
  have hkeys : (Table.keys (o.map fun e => (exchange swapped e.1, e.2))).Nodup := by
    have hmap : Table.keys (o.map fun e => (exchange swapped e.1, e.2)) =
        o.keys.map (exchange swapped) := by
      simp [Table.keys]
    rw [hmap]
    exact ho.nodup.map exchange_injective
  rw [← Table.get?_eq_some_iff sorted_renamed.nodup, renamed, Table.ofList,
    Table.get?_foldl_insert hkeys, Table.get?_nil, Option.or_none, Table.get?_eq_some_iff hkeys,
    List.mem_map]
  constructor
  · rintro ⟨e, he, heq⟩
    cases heq
    rwa [exchange_exchange]
  · intro hmem
    exact ⟨_, hmem, by rw [exchange_exchange]⟩

private theorem get?_renamed (ho : o.Sorted) (name : String) :
    (renamed swapped o).get? name = o.get? (exchange swapped name) := by
  refine Option.ext fun v => ?_
  rw [Table.get?_eq_some_iff sorted_renamed.nodup, Table.get?_eq_some_iff ho.nodup,
    mem_renamed_iff ho]

/-! ### Members that count -/

/-- The member and its value that an entry is, if its name is that of a member. -/
def known? (e : String × Json.Value) : Option (Member × Json.Value) :=
  (Member.ofName? e.1).map fun m => (m, e.2)

/-- The entries of an object that are looked at, by their members. -/
def entries (o : Table Json.Value) : List (Member × Json.Value) := o.filterMap known?

/-- The member is there under both of its names. -/
def InBothLanguages (o : Table Json.Value) (m : Member) : Prop :=
  (o.get? m.name).isSome = true ∧ (o.get? m.portugueseName).isSome = true

instance (o : Table Json.Value) (m : Member) : Decidable (InBothLanguages o m) :=
  inferInstanceAs (Decidable (_ ∧ _))

private theorem inBothLanguages_renamed_iff (ho : o.Sorted) {m : Member} :
    InBothLanguages (renamed swapped o) m ↔ InBothLanguages o m := by
  rw [InBothLanguages, get?_renamed ho, get?_renamed ho, exchange_name, exchange_portugueseName]
  split
  · exact and_comm
  · exact Iff.rfl

private theorem isEnvelope_renamed (ho : o.Sorted) :
    isEnvelope (renamed swapped o) = isEnvelope o := by
  rw [isEnvelope, get?_renamed ho, get?_renamed ho, exchange_name, exchange_portugueseName]
  split
  · exact Bool.or_comm _ _
  · rfl

private theorem known?_eq_some_iff {e : String × Json.Value} {m : Member} {v : Json.Value} :
    known? e = some (m, v) ↔ Member.ofName? e.1 = some m ∧ e.2 = v := by
  simp [known?]

private theorem mem_entries_iff {m : Member} {v : Json.Value} :
    (m, v) ∈ entries o ↔ ∃ name, Member.ofName? name = some m ∧ (name, v) ∈ o := by
  simp only [entries, List.mem_filterMap, known?_eq_some_iff]
  constructor
  · rintro ⟨⟨name, w⟩, he, hname, rfl⟩
    exact ⟨name, hname, he⟩
  · rintro ⟨name, hname, he⟩
    exact ⟨(name, v), he, hname, rfl⟩

private theorem mem_entries_renamed_iff (ho : o.Sorted) {e : Member × Json.Value} :
    e ∈ entries (renamed swapped o) ↔ e ∈ entries o := by
  obtain ⟨m, v⟩ := e
  simp only [mem_entries_iff, mem_renamed_iff ho]
  constructor
  · rintro ⟨name, hname, he⟩
    exact ⟨_, (ofName?_exchange name).trans hname, he⟩
  · rintro ⟨name, hname, he⟩
    exact ⟨exchange swapped name, (ofName?_exchange name).trans hname, by rwa [exchange_exchange]⟩

/-- The entries are looked at in the order of the members. -/
theorem pairwise_entries (ho : o.Sorted) (hone : ∀ m, ¬InBothLanguages o m) :
    (entries o).Pairwise fun e e' => e.1.rank < e'.1.rank := by
  have hget : ∀ {e}, e ∈ o → o.get? e.1 = some e.2 := fun he =>
    (Table.get?_eq_some_iff ho.nodup).2 he
  have hpairs : o.Pairwise fun e e' => e.1 < e'.1 := List.pairwise_map.1 ho
  refine List.pairwise_filterMap.2 (hpairs.imp_of_mem ?_)
  rintro e e' he he' hlt ⟨m, v⟩ hm ⟨m', v'⟩ hm'
  obtain ⟨hname, -⟩ := known?_eq_some_iff.1 hm
  obtain ⟨hname', -⟩ := known?_eq_some_iff.1 hm'
  refine lt_of_le_of_ne (Member.rank_le_of_lt hname hname' hlt) fun hrank => ?_
  -- The two names would be those of one member.
  obtain rfl := Member.rank_injective hrank
  have hsome : ∀ {e}, e ∈ o → (o.get? e.1).isSome = true := fun he => by
    rw [(Table.get?_eq_some_iff ho.nodup).2 he]
    rfl
  rcases Member.ofName?_eq_some_iff.1 hname with hn | hn <;>
    rcases Member.ofName?_eq_some_iff.1 hname' with hn' | hn'
  · exact String.lt_irrefl _ (hn ▸ hn' ▸ hlt)
  · exact hone m ⟨hn ▸ hsome he, hn' ▸ hsome he'⟩
  · exact hone m ⟨hn' ▸ hsome he', hn ▸ hsome he⟩
  · exact String.lt_irrefl _ (hn ▸ hn' ▸ hlt)

/-- **Exchanged names change nothing in what is looked at.** -/
theorem entries_renamed (ho : o.Sorted) (hone : ∀ m, ¬InBothLanguages o m) :
    entries (renamed swapped o) = entries o := by
  have hrenamed : ∀ m, ¬InBothLanguages (renamed swapped o) m := fun m hm =>
    hone m ((inBothLanguages_renamed_iff ho).1 hm)
  exact List.Pairwise.eq_of_mem_iff (pairwise_entries sorted_renamed hrenamed)
    (pairwise_entries ho hone) fun e => mem_entries_renamed_iff ho

/-! ### Decoding -/

private theorem addAll_eq_foldlM (seen : Seen) (o : Table Json.Value) :
    seen.addAll o = (entries o).foldlM (fun seen e => seen.add e.1 e.2) seen := by
  induction o generalizing seen with
  | nil => rfl
  | cons e o ih =>
    obtain ⟨name, v⟩ := e
    cases hname : Member.ofName? name with
    | none => simp [Seen.addAll, entries, known?, hname, ih]
    | some m =>
      cases hadd : seen.add m v with
      | error f => simp [Seen.addAll, entries, known?, hname, hadd, bind, Except.bind]
      | ok seen' => simp [Seen.addAll, entries, known?, hname, hadd, ih, bind, Except.bind]

/-- Whether the member has been seen. -/
def Seen.has (seen : Seen) : Member → Bool
  | .success => seen.success.isSome
  | .result => seen.result.isSome
  | .error => seen.error.isSome

theorem Seen.add_of_has {seen : Seen} {m : Member} (h : seen.has m = true) (v : Json.Value) :
    seen.add m v = .error (.duplicate m) := by
  cases m <;> exact if_pos h

/-- A member is added once. -/
theorem Seen.has_of_add {seen seen' : Seen} {m : Member} {v : Json.Value}
    (h : seen.add m v = .ok seen') :
    seen.has m = false ∧ ∀ m', seen'.has m' = (seen.has m' || m' == m) := by
  have hfree : seen.has m = false := by
    refine Bool.eq_false_iff.2 fun hhas => ?_
    rw [add_of_has hhas] at h
    cases h
  refine ⟨hfree, fun m' => ?_⟩
  have hopen : ¬seen.has m = true := by simp [hfree]
  cases m with
  | success =>
    cases v with
    | bool b =>
      obtain rfl := Except.ok.inj ((if_neg hopen).symm.trans h)
      cases m' <;> simp [has]
    | _ => cases (if_neg hopen).symm.trans h
  | result =>
    obtain rfl := Except.ok.inj ((if_neg hopen).symm.trans h)
    cases m' <;> simp [has]
  | error =>
    cases v with
    | null =>
      obtain rfl := Except.ok.inj ((if_neg hopen).symm.trans h)
      cases m' <;> simp [has]
    | string s =>
      obtain rfl := Except.ok.inj ((if_neg hopen).symm.trans h)
      cases m' <;> simp [has]
    | _ => cases (if_neg hopen).symm.trans h

/-- If all entries can be added, no member is there twice. -/
private theorem nodup_of_foldlM {es : List (Member × Json.Value)} {seen seen' : Seen}
    (h : es.foldlM (fun seen e => seen.add e.1 e.2) seen = .ok seen') :
    (es.map Prod.fst).Nodup ∧ ∀ e ∈ es, seen.has e.1 = false := by
  induction es generalizing seen with
  | nil => simp
  | cons e es ih =>
    cases hadd : seen.add e.1 e.2 with
    | error f => simp [hadd, bind, Except.bind] at h
    | ok next =>
      have hrest : es.foldlM (fun seen e => seen.add e.1 e.2) next = .ok seen' := by
        simpa [hadd, bind, Except.bind] using h
      obtain ⟨hnodup, hnot⟩ := ih hrest
      obtain ⟨hnew, hnext⟩ := Seen.has_of_add hadd
      have hfree : ∀ e' ∈ es, e'.1 ≠ e.1 ∧ seen.has e'.1 = false := fun e' he' => by
        have := hnext e'.1
        rw [hnot e' he', eq_comm, Bool.or_eq_false_iff] at this
        exact ⟨by simpa using this.2, this.1⟩
      refine ⟨?_, ?_⟩
      · rw [List.map_cons, List.nodup_cons, List.mem_map]
        exact ⟨fun ⟨e', he', heq⟩ => (hfree e' he').1 heq, hnodup⟩
      · exact List.forall_mem_cons.2 ⟨hnew, fun e' he' => (hfree e' he').2⟩

/-- An object with both names of a member is refused. -/
private theorem exists_ofMembers_eq_error (ho : o.Sorted) {m : Member}
    (hboth : InBothLanguages o m) :
    ∃ f, ofMembers o = .error f := by
  cases hread : Seen.nothing.addAll o with
  | error f => exact ⟨f, by rw [ofMembers, hread]; rfl⟩
  | ok seen =>
    exfalso
    rw [addAll_eq_foldlM] at hread
    have hnodup := (nodup_of_foldlM hread).1
    rw [entries, List.map_filterMap, List.Nodup, List.pairwise_filterMap] at hnodup
    -- The two entries are different, but both are looked at as this member.
    obtain ⟨v, hv⟩ := Option.isSome_iff_exists.1 hboth.1
    obtain ⟨w, hw⟩ := Option.isSome_iff_exists.1 hboth.2
    have hne : (m.name, v) ≠ (m.portugueseName, w) := fun heq =>
      m.name_ne_portugueseName (congrArg Prod.fst heq)
    have hlooked : ∀ {name u}, name = m.name ∨ name = m.portugueseName →
        (known? (name, u)).map Prod.fst = some m := fun hname => by
      simp [known?, Member.ofName?_eq_some_iff.2 hname]
    have hsymm : Std.Symm fun e e' : String × Json.Value =>
        ∀ n, (known? e).map Prod.fst = some n → ∀ n', (known? e').map Prod.fst = some n' →
          n ≠ n' := ⟨fun e e' h n hn n' hn' => (h n' hn' n hn).symm⟩
    exact hnodup.forall ((Table.get?_eq_some_iff ho.nodup).1 hv)
      ((Table.get?_eq_some_iff ho.nodup).1 hw) hne m (hlooked (Or.inl rfl)) m
      (hlooked (Or.inr rfl)) rfl

/-! ### Replies -/

private theorem parse_of_envelope {raw : Text} (h : Json.parse (payload raw) = .ok (.object o))
    (henvelope : isEnvelope o = true) :
    parse raw = (ofMembers o).mapError fun f =>
      .serviceFailure s!"Resposta em formato inesperado: {f.message}" := by
  have hvalue : ofValue (.object o) = ofMembers o := if_pos henvelope
  rw [parse, h]
  cases hmembers : ofMembers o <;> simp [hvalue, hmembers, Except.mapError]

/-- **Both languages of an envelope mean the same.** A reply is decoded to the same members, or to
the same failure, if the names of some of its members are exchanged for their names in the other
language; and an envelope with both names of a member is refused. -/
theorem parse_exchanged :
    (∀ (raw raw' : Text) (o : Table Json.Value) (swapped : Member → Bool),
      Json.parse (payload raw) = .ok (.object o) →
      Json.parse (payload raw') = .ok (.object (renamed swapped o)) →
      isEnvelope o = true → (∀ m, ¬InBothLanguages o m) → parse raw = parse raw') ∧
    ∀ (raw : Text) (o : Table Json.Value) (m : Member),
      Json.parse (payload raw) = .ok (.object o) → isEnvelope o = true → InBothLanguages o m →
      ∃ message, parse raw = .error (.serviceFailure message) := by
  refine ⟨fun raw raw' o swapped hraw hraw' henvelope hone => ?_,
    fun raw o m hraw henvelope hboth => ?_⟩
  · have ho := Json.sorted_of_parse_object hraw
    have hmembers : ofMembers (renamed swapped o) = ofMembers o := by
      rw [ofMembers, ofMembers, addAll_eq_foldlM, addAll_eq_foldlM, entries_renamed ho hone]
    rw [parse_of_envelope hraw henvelope,
      parse_of_envelope hraw' ((isEnvelope_renamed ho).trans henvelope), hmembers]
  · obtain ⟨f, hf⟩ := exists_ofMembers_eq_error (Json.sorted_of_parse_object hraw) hboth
    rw [parse_of_envelope hraw henvelope, hf]
    exact ⟨_, rfl⟩

/-- An envelope in which the values of two members have the wrong type. -/
def wrongTypes : Table Json.Value :=
  [("a", .number (.integer 1)), ("error", .number (.integer 5)), ("result", .null),
    ("success", .string "no")]

/-- The envelope as a reply. -/
def englishReply : Text :=
  "\x7b\"success\": \"no\", \"result\": null, \"error\": 5, \"a\": 1\x7d".toList

/-- The same reply with two of its members in Portuguese. -/
def mixedReply : Text :=
  "\x7b\"sucesso\": \"no\", \"result\": null, \"erro\": 5, \"a\": 1\x7d".toList

/-- An envelope with the result in both languages. -/
def twoResults : Table Json.Value :=
  [("result", .null), ("resultado", .null), ("sucesso", .bool true)]

/-- The envelope as a reply. -/
def ambiguousReply : Text :=
  "\x7b\"sucesso\": true, \"result\": null, \"resultado\": null\x7d".toList

/-- An envelope with wrong values means the same in two mixtures of the languages, and a result that
is there in both is refused. -/
theorem parse_of_exchanged_wrongTypes :
    ((Json.parse (payload englishReply) = .ok (.object wrongTypes) ∧
        Json.parse (payload mixedReply) = .ok (.object (renamed (· != .result) wrongTypes)) ∧
        isEnvelope wrongTypes = true ∧ ∀ m, ¬InBothLanguages wrongTypes m) ∧
      parse englishReply = parse mixedReply) ∧
    (Json.parse (payload ambiguousReply) = .ok (.object twoResults) ∧
        isEnvelope twoResults = true ∧ InBothLanguages twoResults .result) ∧
      ∃ message, parse ambiguousReply = .error (.serviceFailure message) := by
  have henglish : Json.parse (payload englishReply) = .ok (.object wrongTypes) := by decide +kernel
  have hmixed : Json.parse (payload mixedReply) =
      .ok (.object (renamed (· != .result) wrongTypes)) := by decide +kernel
  have hone : ∀ m, ¬InBothLanguages wrongTypes m := by
    intro m
    cases m <;> decide
  have hambiguous : Json.parse (payload ambiguousReply) = .ok (.object twoResults) := by
    decide +kernel
  have hboth : InBothLanguages twoResults .result := by decide
  obtain ⟨hsame, hrefused⟩ := parse_exchanged
  exact ⟨⟨⟨henglish, hmixed, rfl, hone⟩, hsame _ _ _ _ henglish hmixed rfl hone⟩,
    ⟨hambiguous, rfl, hboth⟩, hrefused _ _ _ hambiguous rfl hboth⟩

end ServiceCharter.Reply
