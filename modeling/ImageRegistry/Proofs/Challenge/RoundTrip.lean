import ImageRegistry.Proofs.Challenge.Rendering
import ImageRegistry.Proofs.Challenge.Table

namespace ImageRegistry

open Text

theorem find?_reverse_of_pairwise {α : Type} {p : α → Bool} {all : List α}
    (h : all.Pairwise fun a b => p a = true → p b = false) :
    all.reverse.find? p = all.find? p := by
  induction all with
  | nil => rfl
  | cons a all ih =>
      obtain ⟨ha, hall⟩ := List.pairwise_cons.1 h
      rw [List.reverse_cons, List.find?_append, ih hall, List.find?_singleton]
      cases hp : p a with
      | true =>
          have hn : all.find? p = none :=
            List.find?_eq_none.2 fun b hb => Bool.eq_false_iff.1 (ha b hb hp)
          rw [hn, List.find?_cons_of_pos hp, if_pos rfl, Option.none_or]
      | false =>
          rw [List.find?_cons_of_neg (Bool.eq_false_iff.1 hp), if_neg Bool.false_ne_true,
            Option.or_none]

namespace Challenge

def Name.lower (name : Name) : List Char :=
  name.text.map Char.toLower

theorem toNat_lt_of_plain {c : Char} (h : (c.isAlphanum || c == '-') = true) : c.toNat < 0x80 := by
  rw [Bool.or_eq_true, beq_iff_eq] at h
  rcases h with h | rfl
  · exact toNat_lt_of_isAlphanum h
  · decide

theorem foldCase_name (name : Name) : foldCase name.symbols = symbolsOf name.lower := by
  have hf : ∀ c ∈ name.text, foldSymbol (.char c) = [.char c.toLower] := fun c hc =>
    congrArg symbolsOf (if_pos (toNat_lt_of_plain (name.plain c hc)) : foldChar c = [c.toLower])
  rw [foldCase, Name.symbols, symbolsOf, List.flatMap_map, List.flatMap_congr hf, symbolsOf,
    Name.lower, List.map_map, List.map_eq_flatMap]
  rfl

theorem symbolsOf_beq (a : List Char) (name : String) :
    (symbolsOf a == symbols name) = (a == name.toList) := by
  rw [Bool.eq_iff_iff, beq_iff_eq, beq_iff_eq, symbols, symbolsOf_inj]

def Parameter.field (p : Parameter) : List Symbol × List Symbol :=
  (p.name.symbols, p.value)

theorem word?_contents (ps : List Parameter) : (contents ps).filterMap Item.word? = [] := by
  induction ps with
  | nil => rfl
  | cons p ps ih =>
      cases ps with
      | nil => rfl
      | cons q ps =>
          rw [contents_cons_cons]
          exact ih

theorem pair?_contents (ps : List Parameter) :
    (contents ps).filterMap Item.pair? = ps.map Parameter.field := by
  induction ps with
  | nil => rfl
  | cons p ps ih =>
      cases ps with
      | nil => rfl
      | cons q ps =>
          rw [contents_cons_cons, List.map_cons, ← ih]
          rfl

def Offer.Unrepeated (o : Offer) : Prop :=
  (o.parameters.map fun p => p.name.lower).Nodup

instance : DecidablePred Offer.Unrepeated := fun o =>
  inferInstanceAs (Decidable (o.parameters.map fun p => p.name.lower).Nodup)

def Offer.fields (o : Offer) : List (List Symbol × List Symbol) :=
  o.parameters.map Parameter.field

theorem Offer.Unrepeated.fields {o : Offer} (h : o.Unrepeated) :
    (o.fields.map Prod.fst).Nodup := by
  refine List.Nodup.of_map (fun name => (charsOf name).map Char.toLower) ?_
  simpa [Offer.Unrepeated, Offer.fields, Function.comp_def, Parameter.field, Name.lower,
    Name.symbols] using h

theorem Offer.fields_ne_nil (o : Offer) : o.fields ≠ [] := by
  rw [Offer.fields, Ne, List.map_eq_nil_iff]
  exact o.parameters_ne_nil

theorem ofItems_contents (o : Offer) :
    Raw.ofItems (contents o.parameters) = .fields (table o.fields) := by
  have hne : table o.fields ≠ [] := putAll_ne_nil o.fields_ne_nil []
  rw [Raw.ofItems, word?_contents, pair?_contents]
  simp only
  rw [← Offer.fields]
  cases ht : table o.fields with
  | nil => exact absurd ht hne
  | cons field fields => rfl

def Offer.entry (o : Offer) : List Symbol × Raw :=
  (symbolsOf o.scheme.lower, .fields o.fields)

def Offer.merged (o : Offer) : List Symbol × Raw :=
  (symbolsOf o.scheme.lower, .fields (table o.fields))

theorem Offer.Unrepeated.merged {o : Offer} (h : o.Unrepeated) : o.merged = o.entry := by
  have ht : table o.fields = o.fields := putAll_fresh h.fields
  rw [Offer.merged, ht, Offer.entry]

theorem addGroup_offer (o : Offer) (challenges : List (List Symbol × Raw)) :
    addGroup challenges o.group = .ok (putPair (· == ·) o.merged.1 o.merged.2 challenges) := by
  rw [Offer.merged, ← ofItems_contents, ← foldCase_name]
  rfl

theorem foldlM_addGroup_offers (offers : List Offer) (challenges : List (List Symbol × Raw)) :
    (offers.map Offer.group).foldlM addGroup challenges =
      .ok (putAll challenges (offers.map Offer.merged)) := by
  induction offers generalizing challenges with
  | nil => rfl
  | cons o offers ih =>
      rw [List.map_cons, List.foldlM_cons, addGroup_offer]
      exact ih _

theorem readHeader_offered (offers : List Offer) :
    readHeader (offered offers) = .ok (putAll [] (offers.map Offer.merged)) := by
  rw [readHeader, lexemes?_offered]
  simp only
  rw [items_offered, groups_offered, collect_eq, foldlM_addGroup_offers]

theorem Decoders.read_merged {α : Type} (decoders : Decoders α) (offers : List Offer) :
    decoders.read (some (offered offers)) =
      .ok (decoders.decode (putAll [] (offers.map Offer.merged))) :=
  decoders.read_of_readHeader (readHeader_offered offers)

structure Distinct (offers : List Offer) : Prop where
  schemes : (offers.map fun o => o.scheme.lower).Nodup
  names : ∀ o ∈ offers, o.Unrepeated

theorem putAll_offers {offers : List Offer} (h : Distinct offers) :
    putAll [] (offers.map Offer.merged) = offers.map Offer.entry := by
  have hkeys : (([] ++ offers.map Offer.entry).map Prod.fst).Nodup := by
    refine List.Nodup.of_map charsOf ?_
    simpa [Function.comp_def, Offer.entry] using h.schemes
  rw [List.map_congr_left fun o ho => (h.names o ho).merged, putAll_fresh hkeys, List.nil_append]

theorem Decoders.read_offered {α : Type} (decoders : Decoders α) {offers : List Offer}
    (h : Distinct offers) :
    decoders.read (some (offered offers)) =
      .ok (decoders.decode (offers.map Offer.entry)) := by
  rw [decoders.read_merged, putAll_offers h]

def Offer.value? (o : Offer) (name : String) : Option (List Symbol) :=
  (o.parameters.find? fun p => p.name.lower == name.toList).map Parameter.value

theorem lastNamed?_fields {o : Offer} (h : o.Unrepeated) (name : String) :
    Bearer.lastNamed? name o.fields = o.value? name := by
  have hp : o.parameters.Pairwise fun p q =>
      (p.name.lower == name.toList) = true → (q.name.lower == name.toList) = false := by
    refine (List.pairwise_map.1 h).imp fun {p q} hne he => ?_
    exact beq_eq_false_iff_ne.2 fun hq => hne ((eq_of_beq he).trans hq.symm)
  have hf : ∀ p : Parameter, (foldCase p.field.1 == symbols name) = (p.name.lower == name.toList) :=
    fun p => by rw [Parameter.field, foldCase_name, symbolsOf_beq]
  rw [Bearer.lastNamed?, Offer.fields, ← List.map_reverse, List.find?_map, Offer.value?,
    ← find?_reverse_of_pairwise hp, Option.map_map]
  simp only [Function.comp_def, hf]
  rfl

def Offer.bearer (o : Offer) : Bearer (List Symbol) :=
  ⟨o.value? "realm", o.value? "service", o.value? "scope"⟩

theorem ofFields_fields {o : Offer} (h : o.Unrepeated) :
    Bearer.ofFields o.fields = some o.bearer := by
  have hne : ¬ o.fields.isEmpty = true := by
    rw [List.isEmpty_iff]
    exact o.fields_ne_nil
  rw [Bearer.ofFields, if_neg hne, lastNamed?_fields h, lastNamed?_fields h, lastNamed?_fields h]
  rfl

def Offer.isBearer (o : Offer) : Bool :=
  o.scheme.lower == "bearer".toList

theorem key_entry (o : Offer) : (o.entry.1 == symbols "bearer") = o.isBearer :=
  symbolsOf_beq o.scheme.lower "bearer"

theorem find?_entry (o : Offer) :
    Bearer.decoders.find? o.entry.1 = if o.isBearer then some Bearer.ofRaw else none := by
  rw [Decoders.find?, Bearer.decoders, List.lookup_cons, key_entry]
  cases o.isBearer with
  | true => rfl
  | false => rfl

theorem decode_offers {offers : List Offer} (h : ∀ o ∈ offers, o.Unrepeated) :
    Bearer.decoders.decode (offers.map Offer.entry) =
      (offers.filter Offer.isBearer).map Offer.bearer := by
  induction offers with
  | nil => rfl
  | cons o offers ih =>
      obtain ⟨ho, hr⟩ := List.forall_mem_cons.1 h
      have ih := ih hr
      rw [Decoders.decode] at ih
      rw [Decoders.decode, List.map_cons, List.filterMap_cons, find?_entry, ih]
      cases hb : o.isBearer with
      | true =>
          have hd : Bearer.ofRaw o.entry.2 = some o.bearer := ofFields_fields ho
          simp [hb, hd]
      | false => simp [hb]

theorem filter_isBearer {offers : List Offer} (h : (offers.map fun o => o.scheme.lower).Nodup)
    {o : Offer} (ho : o ∈ offers) (hb : o.scheme.lower = "bearer".toList) :
    offers.filter Offer.isBearer = [o] := by
  obtain ⟨before, behind, rfl⟩ := List.append_of_mem ho
  have hother : ∀ other ∈ before ++ behind, ¬ other.isBearer = true := by
    intro other hm he
    have hs : other.scheme.lower = o.scheme.lower := (eq_of_beq he).trans hb.symm
    have hn : o.scheme.lower ∉ (before ++ behind).map fun o => o.scheme.lower := by
      rw [List.map_append, List.map_cons] at h
      rw [List.map_append]
      exact (List.nodup_middle.1 h).notMem
    exact hn (hs ▸ List.mem_map_of_mem hm)
  have ho : o.isBearer = true := beq_iff_eq.2 hb
  have hbefore := List.filter_eq_nil_iff.2 fun other hm =>
    hother other (List.mem_append_left behind hm)
  have hbehind := List.filter_eq_nil_iff.2 fun other hm =>
    hother other (List.mem_append_right before hm)
  rw [List.filter_append, List.filter_cons_of_pos ho, hbefore, hbehind, List.nil_append]

theorem only_bearer_decoded {offers : List Offer} (h : Distinct offers) :
    ((∀ o ∈ offers, o.scheme.lower ≠ "bearer".toList) →
      Bearer.decoders.read (some (offered offers)) = .ok []) ∧
    ∀ o ∈ offers, o.scheme.lower = "bearer".toList →
      Bearer.decoders.read (some (offered offers)) = .ok [o.bearer] := by
  rw [Bearer.decoders.read_offered h, decode_offers h.names]
  constructor
  · intro hn
    have hf : offers.filter Offer.isBearer = [] :=
      List.filter_eq_nil_iff.2 fun o ho he => hn o ho (eq_of_beq he)
    rw [hf, List.map_nil]
  · intro o ho hb
    rw [filter_isBearer h.schemes ho hb, List.map_singleton]

def imitation : Offer where
  scheme := ⟨"Basic".toList, by decide, List.all_eq_true.1 rfl⟩
  parameters :=
    [⟨⟨"realm".toList, by decide, List.all_eq_true.1 rfl⟩, symbols "a, Bearer realm=b",
      by decide, by decide, by decide⟩]
  parameters_ne_nil := by decide

def scopedOffer : Offer where
  scheme := ⟨"BEARER".toList, by decide, List.all_eq_true.1 rfl⟩
  parameters :=
    [⟨⟨"Realm".toList, by decide, List.all_eq_true.1 rfl⟩, symbols "https://auth.io/t",
      by decide, by decide, by decide⟩,
      ⟨⟨"scope".toList, by decide, List.all_eq_true.1 rfl⟩, symbols "repo:a:pull,push",
        by decide, by decide, by decide⟩]
  parameters_ne_nil := by decide

theorem only_bearer_decoded_behind_imitation :
    Bearer.decoders.read (some (symbols "Basic realm=\"a, Bearer realm=b\"")) = .ok [] ∧
      Bearer.decoders.read (some (symbols ("Basic realm=\"a, Bearer realm=b\", " ++
        "BEARER Realm=\"https://auth.io/t\", scope=\"repo:a:pull,push\""))) =
          .ok [⟨some (symbols "https://auth.io/t"), none, some (symbols "repo:a:pull,push")⟩] := by
  have hone : Distinct [imitation] := ⟨by decide, by decide⟩
  have htwo : Distinct [imitation, scopedOffer] := ⟨by decide, by decide⟩
  constructor
  · exact (only_bearer_decoded hone).1 (by decide)
  · exact (only_bearer_decoded htwo).2 scopedOffer (by simp) rfl

end Challenge

end ImageRegistry
