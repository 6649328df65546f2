import ImageRegistry.Proofs.Challenge.RoundTrip
import ImageRegistry.Proofs.Exchange.Handshake

namespace ImageRegistry.Challenge

open Text

theorem lastNamed?_eq {α : Type} (name : String) (fields : List (List Symbol × α)) :
    Bearer.lastNamed? name fields =
      (fields.filter fun field =>
        foldCase field.1 == symbols name).getLast?.map Prod.snd := by
  rw [Bearer.lastNamed?, ← List.head?_filter, List.filter_reverse, List.head?_reverse]

def Offer.read? (o : Offer) (name : String) : Option (List Symbol) :=
  Bearer.lastNamed? name (table o.fields)

def Offer.decoded (o : Offer) : Bearer (List Symbol) :=
  ⟨o.read? "realm", o.read? "service", o.read? "scope"⟩

theorem ofRaw_merged (o : Offer) : Bearer.ofRaw o.merged.2 = some o.decoded := by
  have hne : table o.fields ≠ [] := putAll_ne_nil o.fields_ne_nil []
  exact if_neg (by simpa using hne)

theorem Offer.Unrepeated.decoded {o : Offer} (h : o.Unrepeated) : o.decoded = o.bearer := by
  have ht : table o.fields = o.fields := putAll_fresh h.fields
  simp only [Offer.decoded, Offer.read?, ht, lastNamed?_fields h, Offer.bearer]

theorem decode_filter (entries : List (List Symbol × Raw)) :
    Bearer.decoders.decode (entries.filter fun entry => entry.1 == symbols "bearer") =
      Bearer.decoders.decode entries := by
  rw [Decoders.decode, Decoders.decode, List.filterMap_filter]
  congr 1
  funext entry
  cases hk : entry.1 == symbols "bearer" <;>
    simp [Decoders.find?, Bearer.decoders, List.lookup_cons, hk]

theorem decode_merged (offers : List Offer) :
    Bearer.decoders.decode (putAll [] (offers.map Offer.merged)) =
      ((offers.filter Offer.isBearer).getLast?.map Offer.decoded).toList := by
  have hfilter : (offers.map Offer.merged).filter (fun entry => entry.1 == symbols "bearer") =
      (offers.filter Offer.isBearer).map Offer.merged := by
    rw [List.filter_map]
    exact congrArg _ (List.filter_congr fun o _ => key_entry o)
  have hkey : ∀ entry ∈ (offers.filter Offer.isBearer).map Offer.merged,
      entry.1 = symbols "bearer" := by
    intro entry hm
    obtain ⟨o, ho, rfl⟩ := List.mem_map.1 hm
    exact eq_of_beq ((key_entry o).trans (List.mem_filter.1 ho).2)
  rw [← decode_filter, filter_putAll (· == symbols "bearer"), List.filter_nil, hfilter,
    putAll_one_key hkey, List.getLast?_map]
  cases hl : (offers.filter Offer.isBearer).getLast? with
  | none => rfl
  | some o =>
      have ho : o.isBearer = true := (List.mem_filter.1 (List.mem_of_getLast? hl)).2
      have hf : Bearer.decoders.find? o.merged.1 = some Bearer.ofRaw :=
        (find?_entry o).trans (if_pos ho)
      simp [Decoders.decode, hf, ofRaw_merged]

theorem read_bearers (offers : List Offer) :
    Bearer.decoders.read (some (offered offers)) =
      .ok ((offers.filter Offer.isBearer).getLast?.map Offer.decoded).toList := by
  rw [Bearer.decoders.read_merged, decode_merged]

theorem last_bearer_decoded {offers : List Offer} (hne : offers ≠ [])
    (hb : ∀ o ∈ offers, o.isBearer = true) (hu : ∀ o ∈ offers, o.Unrepeated) :
    let header := some (offered offers)
    let last := (offers.getLast hne).bearer
    Bearer.decoders.read header = .ok [last] ∧
      (Bearer.decoders.read header = .ok (offers.map Offer.bearer) ↔ offers.length = 1) ∧
      (Bearer.ofHeader header = .ok (some (offers.head hne).bearer) ↔
        (offers.head hne).bearer = last) ∧
      ∀ (config : RegistryConfig) (repository : List Symbol) (response : Response)
        (rest : List Answer), header? response.headers challengeHeader = header →
        (authenticate config repository).run (.arrived response :: rest) =
          (((requestToken last repository).run rest).map some).after [apiRequest config] := by
  intro header last
  have hread : Bearer.decoders.read header = .ok [last] := by
    simp only [header]
    rw [read_bearers, List.filter_eq_self.2 hb, List.getLast?_eq_some_getLast hne, Option.map_some,
      (hu _ (List.getLast_mem hne)).decoded]
    rfl
  refine ⟨hread, ?_, ?_, ?_⟩
  · rw [hread]
    constructor
    · intro h
      simpa using (congrArg List.length (Except.ok.inj h)).symm
    · intro h
      obtain ⟨o, rfl⟩ := List.length_eq_one_iff.1 h
      rfl
  · rw [Bearer.ofHeader, hread]
    constructor
    · intro h
      exact (Option.some.inj (Except.ok.inj h)).symm
    · intro h
      rw [h]
      rfl
  · intro config repository response rest hheader
    exact run_authenticate_challenged (hheader ▸ hread)

def isName (text : List Char) : Bool :=
  !text.isEmpty && text.all fun c => c.isAlphanum || c == '-'

def Name.ofText (text : List Char) (h : isName text = true) : Name where
  text := text
  ne_nil := by
    rintro rfl
    cases h
  plain := List.all_eq_true.1 (Bool.and_eq_true_iff.1 h).2

def bearerName : Name := .ofText "Bearer".toList rfl

def realmName : Name := .ofText "realm".toList rfl

def capitalRealmName : Name := .ofText "Realm".toList rfl

def letter (name : Name) (c : Char) (h : c ≠ '"' ∧ c ≠ '\\') : Parameter where
  name := name
  value := [.char c]
  value_ne_nil := by simp
  unquoted := by simpa using h.1.symm
  unescaped := by simpa using h.2.symm

def nearRealm : Offer := ⟨bearerName, [letter realmName 'a' (by decide)], by simp⟩

def farRealm : Offer := ⟨bearerName, [letter realmName 'b' (by decide)], by simp⟩

theorem last_bearer_decoded_of_two :
    Bearer.decoders.read (some (symbols "Bearer realm=\"a\", Bearer realm=\"b\"")) =
      .ok [⟨some (symbols "b"), none, none⟩] ∧
    ([nearRealm, farRealm].map Offer.bearer).length = 2 := by
  have hb : ∀ o ∈ [nearRealm, farRealm], o.isBearer = true := by decide
  have hu : ∀ o ∈ [nearRealm, farRealm], o.Unrepeated := by decide
  exact ⟨(last_bearer_decoded (by simp) hb hu).1, rfl⟩

theorem earlier_bearer_lost :
    ¬ ∀ offers : List Offer, 2 ≤ offers.length →
      (∀ o ∈ offers, o.scheme.text = "Bearer".toList ∧ o.Unrepeated ∧
        ∀ p ∈ o.parameters, p.name.text ∈ ["realm".toList, "service".toList, "scope".toList]) →
      Bearer.decoders.read (some (offered offers)) =
        .ok (offers.map Offer.bearer) := by
  intro h
  have hread := h [nearRealm, farRealm] (by simp) (by decide)
  rw [read_bearers] at hread
  exact absurd (congrArg List.length (Except.ok.inj hread)) (by decide)

def named (name : String) (ps : List Parameter) : List Parameter :=
  ps.filter fun p => p.name.lower == name.toList

theorem mem_named {name : String} {ps : List Parameter} {p : Parameter} :
    p ∈ named name ps ↔ p ∈ ps ∧ p.name.lower = name.toList := by
  simp [named]

def Offer.values (o : Offer) (name : String) : List (List Symbol) :=
  (named name o.parameters).map Parameter.value

theorem read?_eq (o : Offer) (name : String) :
    o.read? name =
      (putAll [] ((named name o.parameters).map Parameter.field)).getLast?.map Prod.snd := by
  have hfields : o.fields.filter (fun field => foldCase field.1 == symbols name) =
      (named name o.parameters).map Parameter.field := by
    rw [Offer.fields, List.filter_map]
    refine congrArg _ (List.filter_congr fun p _ => ?_)
    simp only [Function.comp_apply, Parameter.field, foldCase_name, symbolsOf_beq]
  have hfilter := filter_putAll (fun key => foldCase key == symbols name) [] o.fields
  rw [List.filter_nil, hfields] at hfilter
  rw [Offer.read?, lastNamed?_eq, ← hfilter]
  rfl

def Settled (values : List (List Symbol)) : Prop :=
  ∀ v ∈ values.tail, ∀ w ∈ values.tail, v = w

theorem read?_of_settled {o : Offer} {name : String} (h : Settled (o.values name)) :
    o.read? name = (o.values name).tail.head?.or (o.values name).head? := by
  have hvalues : ((named name o.parameters).map Parameter.field).map Prod.snd = o.values name := by
    rw [List.map_map]
    rfl
  rw [Settled, ← hvalues] at h
  rw [read?_eq, last_of_settled h, hvalues]

theorem read?_of_own_spelling {o : Offer} {name : String} {common : Name} {p : Parameter}
    {before behind : List Parameter} (ho : o.parameters = before ++ p :: behind)
    (hp : p.name.lower = name.toList) (hne : named name before ≠ [])
    (hbefore : ∀ q ∈ named name before, q.name = common)
    (hbehind : ∀ q ∈ named name behind, q.name = common) (hown : common.text ≠ p.name.text) :
    o.read? name = some p.value := by
  have hkey {ps : List Parameter} (h : ∀ q ∈ ps, q.name = common) :
      ∀ field ∈ ps.map Parameter.field, field.1 = common.symbols := by
    intro field hm
    obtain ⟨q, hq, rfl⟩ := List.mem_map.1 hm
    rw [Parameter.field, h q hq]
  have hkeys : common.symbols ≠ p.name.symbols := fun he => hown (symbolsOf_inj.1 he)
  have hsplit : (named name o.parameters).map Parameter.field =
      (named name before).map Parameter.field ++
        p.field :: (named name behind).map Parameter.field := by
    simp [named, ho, hp]
  have hlast := last_of_new_key hkeys (by simpa using hne) (hkey hbefore) (hkey hbehind)
    p.value
  rw [read?_eq, hsplit, Parameter.field, hlast, Option.map_some]

def Parameter.plain (p : Parameter) : List Char × List Symbol :=
  (p.name.lower, p.value)

def Offer.Respells (other o : Offer) : Prop :=
  other.scheme = o.scheme ∧ other.parameters.map Parameter.plain = o.parameters.map Parameter.plain

theorem Offer.Respells.values {other o : Offer} (h : other.Respells o) (name : String) :
    other.values name = o.values name := by
  have hplain (o : Offer) : o.values name =
      ((o.parameters.map Parameter.plain).filter fun plain => plain.1 == name.toList).map
        Prod.snd := by
    rw [List.filter_map, List.map_map]
    rfl
  rw [hplain, hplain, h.2]

def Parameter.rename (name : Name) (p : Parameter) : Parameter :=
  { p with name := name }

theorem plain_rename {spelling : Name} {p : Parameter} (h : p.name.lower = spelling.lower) :
    (p.rename spelling).plain = p.plain := by
  simp [Parameter.plain, Parameter.rename, h]

def Parameter.respell (spelling : Name) (p : Parameter) : Parameter :=
  if p.name.lower = spelling.lower then p.rename spelling else p

theorem plain_respell (spelling : Name) (p : Parameter) :
    (p.respell spelling).plain = p.plain := by
  unfold Parameter.respell
  split
  · next h => exact plain_rename h
  · rfl

theorem lower_respell (spelling : Name) (p : Parameter) :
    (p.respell spelling).name.lower = p.name.lower :=
  congrArg Prod.fst (plain_respell spelling p)

theorem name_respell {spelling : Name} {p : Parameter} (h : p.name.lower = spelling.lower) :
    (p.respell spelling).name = spelling := by
  rw [Parameter.respell, if_pos h]
  rfl

theorem named_respell {name : String} {spelling : Name} (hs : spelling.lower = name.toList)
    (ps : List Parameter) :
    ∀ q ∈ named name (ps.map (Parameter.respell spelling)), q.name = spelling := by
  intro q hq
  obtain ⟨hq, hn⟩ := mem_named.1 hq
  obtain ⟨p, hp, rfl⟩ := List.mem_map.1 hq
  rw [lower_respell] at hn
  exact name_respell (hn.trans hs.symm)

theorem named_respell_ne_nil {name : String} {ps : List Parameter} (h : named name ps ≠ [])
    (spelling : Name) : named name (ps.map (Parameter.respell spelling)) ≠ [] := by
  obtain ⟨q, hq⟩ := List.exists_mem_of_ne_nil _ h
  obtain ⟨hq, hn⟩ := mem_named.1 hq
  have hn' : (q.respell spelling).name.lower = name.toList := (lower_respell spelling q).trans hn
  exact List.ne_nil_of_mem (mem_named.2 ⟨List.mem_map_of_mem hq, hn'⟩)

theorem split_of_mem_tail_named {name : String} {ps : List Parameter} {p : Parameter}
    (h : p ∈ (named name ps).tail) :
    ∃ before behind, ps = before ++ p :: behind ∧ p.name.lower = name.toList ∧
      named name before ≠ [] := by
  induction ps with
  | nil => simp [named] at h
  | cons q ps ih =>
      by_cases hq : q.name.lower = name.toList
      · have hp : p ∈ named name ps := by simpa [named, hq] using h
        obtain ⟨hp, hn⟩ := mem_named.1 hp
        obtain ⟨before, behind, rfl⟩ := List.append_of_mem hp
        exact ⟨q :: before, behind, rfl, hn, by simp [named, hq]⟩
      · have hp : p ∈ (named name ps).tail := by simpa [named, hq] using h
        obtain ⟨before, behind, rfl, hn, hne⟩ := ih hp
        exact ⟨q :: before, behind, rfl, hn, by simpa [named, hq] using hne⟩

-- Every value but the first can be made the one that counts: its name gets a spelling of its own.
theorem exists_respelled {o : Offer} {name : String} {common own : Name}
    (hc : common.lower = name.toList) (ho : own.lower = name.toList)
    (hne : common.text ≠ own.text) {v : List Symbol} (hv : v ∈ (o.values name).tail) :
    ∃ other : Offer, other.Respells o ∧ other.read? name = some v := by
  rw [Offer.values, ← List.map_tail] at hv
  obtain ⟨p, hp, rfl⟩ := List.mem_map.1 hv
  obtain ⟨before, behind, hsplit, hn, hbefore⟩ := split_of_mem_tail_named hp
  let other : Offer := ⟨o.scheme, before.map (Parameter.respell common) ++
    p.rename own :: behind.map (Parameter.respell common), by simp⟩
  refine ⟨other, ⟨rfl, ?_⟩, ?_⟩
  · have hplain : Parameter.plain ∘ Parameter.respell common = Parameter.plain :=
      funext (plain_respell common)
    simp [other, hsplit, hplain, plain_rename (hn.trans ho.symm)]
  · exact read?_of_own_spelling (o := other) (p := p.rename own) rfl ho
      (named_respell_ne_nil hbefore common) (named_respell hc before) (named_respell hc behind) hne

theorem exists_two_spellings {name : String} (h : name ∈ ["realm", "service", "scope"]) :
    ∃ common own : Name, common.lower = name.toList ∧ own.lower = name.toList ∧
      common.text ≠ own.text := by
  simp only [List.mem_cons, List.not_mem_nil, or_false] at h
  rcases h with rfl | rfl | rfl
  · exact ⟨realmName, capitalRealmName, rfl, rfl, by decide⟩
  · exact ⟨.ofText "service".toList rfl, .ofText "Service".toList rfl, rfl, rfl, by decide⟩
  · exact ⟨.ofText "scope".toList rfl, .ofText "Scope".toList rfl, rfl, rfl, by decide⟩

theorem decoded_eq_iff {other o : Offer} :
    other.decoded = o.decoded ↔
      ∀ name ∈ ["realm", "service", "scope"], other.read? name = o.read? name := by
  simp [Offer.decoded]

theorem read_bearer_text {o : Offer} (h : o.isBearer = true) :
    Bearer.decoders.read (some o.text) = .ok [o.decoded] := by
  have htext : o.text = offered [o] := by simp [offered]
  rw [htext, read_bearers]
  simp [h]

theorem respelling_immaterial_iff {o : Offer} (hb : o.isBearer = true) :
    (∀ other : Offer, other.Respells o →
      Bearer.decoders.read (some other.text) =
        Bearer.decoders.read (some o.text)) ↔
      ∀ name ∈ ["realm", "service", "scope"], Settled (o.values name) := by
  have hread {other : Offer} (h : other.Respells o) :
      Bearer.decoders.read (some other.text) =
          Bearer.decoders.read (some o.text) ↔
        ∀ name ∈ ["realm", "service", "scope"], other.read? name = o.read? name := by
    have hother : other.isBearer = true := by
      rw [Offer.isBearer, h.1]
      exact hb
    rw [read_bearer_text hb, read_bearer_text hother, ← decoded_eq_iff]
    simp
  constructor
  · intro h name hname
    obtain ⟨common, own, hc, ho, hne⟩ := exists_two_spellings hname
    have hval : ∀ v ∈ (o.values name).tail, o.read? name = some v := by
      intro v hv
      obtain ⟨other, hother, hv⟩ := exists_respelled hc ho hne hv
      exact ((hread hother).1 (h other hother) name hname).symm.trans hv
    intro v hv w hw
    exact Option.some.inj ((hval v hv).symm.trans (hval w hw))
  · intro h other hother
    refine (hread hother).2 fun name hname => ?_
    have hsettled := h name hname
    have hvalues := hother.values name
    rw [read?_of_settled hsettled, read?_of_settled (hvalues ▸ hsettled), hvalues]

def twice : Offer :=
  ⟨bearerName, [letter capitalRealmName 'a' (by decide), letter realmName 'b' (by decide)], by simp⟩

theorem respelling_immaterial_iff_of_two :
    twice.isBearer = true ∧ ∀ other : Offer, other.Respells twice →
      Bearer.decoders.read (some other.text) =
        Bearer.decoders.read (some (symbols "Bearer Realm=\"a\", realm=\"b\"")) := by
  have hb : twice.isBearer = true := by decide
  have hsettled : ∀ name ∈ ["realm", "service", "scope"], Settled (twice.values name) := by
    unfold Settled
    decide
  exact ⟨hb, (respelling_immaterial_iff hb).2 hsettled⟩

theorem spelling_tells :
    ¬ ∀ o other : Offer, o.scheme.text = "Bearer".toList →
      (∀ p ∈ o.parameters, ∀ c ∈ p.name.text, c.isAlpha = true) → other.Respells o →
      Bearer.decoders.read (some other.text) =
        Bearer.decoders.read (some o.text) := by
  intro h
  let written (middle : Name) : Offer :=
    ⟨bearerName, [letter realmName 'a' (by decide), letter middle 'b' (by decide),
      letter realmName 'c' (by decide)], by simp⟩
  have hletters : ∀ p ∈ (written realmName).parameters, ∀ c ∈ p.name.text, c.isAlpha = true := by
    simp [written, letter, realmName, Name.ofText]
  have hread := h (written realmName) (written capitalRealmName) rfl hletters ⟨rfl, rfl⟩
  rw [read_bearer_text (by decide), read_bearer_text (by decide)] at hread
  exact absurd hread (by decide)

end ImageRegistry.Challenge
