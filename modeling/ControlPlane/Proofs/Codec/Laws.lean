import ControlPlane.Proofs.Codec.Record
import ControlPlane.Proofs.Json.MergePatch
import ControlPlane.Proofs.Time.Rfc3339

/-!
# Laws of codecs

`Codec.Yields` says what everything that is read satisfies, `Codec.Writes` that what is written has a
certain form, plain JSON most of the time, and `Codec.Restores` that it is read back as it was. Each
is shown for the codecs of basic types and carried over records member by member.
-/

namespace ControlPlane

open Document (ofJson ofMembers)

/-- Objects in key order, without doubles and without a null. -/
structure Json.Plain (j : Json) : Prop where
  canonical : j.Canonical
  doubleFree : j.DoubleFree
  noNull : j.NoNull

namespace Json

theorem Plain.ne_null {j : Json} (h : j.Plain) : j ≠ .null := h.noNull.ne_null

theorem Plain.nullFree {j : Json} (h : j.Plain) : j.NullFree := h.noNull.nullFree

theorem plain_string (s : String) : (Json.string s).Plain := by
  constructor <;> simp [Canonical, DoubleFree, NoNull]

theorem plain_bool (b : Bool) : (Json.bool b).Plain := by
  constructor <;> simp [Canonical, DoubleFree, NoNull]

theorem plain_ofInt (n : Int) : (Json.ofInt n).Plain := by
  constructor <;> simp [Json.ofInt, Canonical, DoubleFree, NoNull]

theorem plain_array {items : List Json} (h : ∀ x ∈ items, x.Plain) : (Json.array items).Plain where
  canonical := canonical_array.2 fun x hx => (h x hx).canonical
  doubleFree := by
    simp only [DoubleFree, doubleFreeItems_iff]
    exact fun x hx => (h x hx).doubleFree
  noNull := by
    simp only [NoNull, noNullItems_iff]
    exact fun x hx => (h x hx).noNull

theorem plain_object {m : Dict Json} (hm : m.Sorted) (h : ∀ e ∈ m, e.2.Plain) :
    (Json.object m).Plain where
  canonical := canonical_object.2 ⟨hm, fun e he => (h e he).canonical⟩
  doubleFree := by
    simp only [DoubleFree, doubleFreeMembers_iff]
    exact fun e he => (h e he).doubleFree
  noNull := by
    simp only [NoNull, noNullMembers_iff]
    exact fun e he => (h e he).noNull

/-- Objects in key order, and not null as a whole. -/
structure Proper (j : Json) : Prop where
  canonical : j.Canonical
  ne_null : j ≠ .null

/-- A form of values that are written: they are proper, and what is put together of values of this
form has it as well. -/
class Form (W : Json → Prop) : Prop where
  proper : ∀ j, W j → j.Proper
  array : ∀ items, (∀ x ∈ items, W x) → W (.array items)
  object : ∀ m : Dict Json, m.Sorted → (∀ e ∈ m, W e.2) → W (.object m)

instance : Form Plain where
  proper _ h := ⟨h.canonical, h.ne_null⟩
  array _ h := plain_array h
  object _ hm h := plain_object hm h

instance : Form Proper where
  proper _ h := h
  array _ h := ⟨canonical_array.2 fun x hx => (h x hx).canonical, by simp⟩
  object _ hm h := ⟨canonical_object.2 ⟨hm, fun e he => (h e he).canonical⟩, by simp⟩

end Json

namespace Codec

variable {α : Type} {c : Codec α} {P : α → Prop} {W : Json → Prop}

/-- Whatever is read satisfies `P`. -/
def Yields (c : Codec α) (P : α → Prop) : Prop := ∀ o d a, c.decode o d = .ok a → P a

/-- Of values that satisfy `P` plain JSON is written, or values of another form. -/
def Writes (c : Codec α) (P : α → Prop) (W : Json → Prop := Json.Plain) : Prop :=
  ∀ a, P a → W (c.encode a)

/-- Values that satisfy `P` are read back as they were written. -/
def Restores (c : Codec α) (P : α → Prop) : Prop :=
  ∀ o a, P a → c.decode o (ofJson (c.encode a)) = .ok a

/-- Of values that satisfy `P` what is written reads as `f` makes them. -/
def RestoresAs (c : Codec α) (f : α → α) (P : α → Prop) : Prop :=
  ∀ o a, P a → c.decode o (ofJson (c.encode a)) = .ok (f a)

/-- What has the form for all values has it for those that satisfy `P`. -/
theorem Writes.always (h : c.Writes (fun _ => True) W) : c.Writes P W := fun a _ => h a trivial

theorem Writes.proper [Json.Form W] (h : c.Writes P W) : c.Writes P Json.Proper :=
  fun a ha => Json.Form.proper _ (h a ha)

theorem string_writes : string.Writes fun _ => True := fun s _ => Json.plain_string s

theorem string_restores : string.Restores fun _ => True := fun _ _ _ => rfl

theorem bool_writes : bool.Writes fun _ => True := fun b _ => Json.plain_bool b

theorem bool_restores : bool.Restores fun _ => True := fun _ _ _ => rfl

theorem int64_yields : int64.Yields fun n => n < 0x8000000000000000 := by
  intro o d n h
  simp only [int64] at h
  split at h
  · split at h
    · cases h
      assumption
    · cases h
  · cases h

theorem int64_writes : int64.Writes fun _ => True := fun n _ => Json.plain_ofInt n

theorem int64_restores : int64.Restores fun n => n < 0x8000000000000000 := by
  intro o n hn
  simp [int64, Json.ofInt, ofJson, hn]

theorem instant_yields (p : Instant.Precision) : (instant p).Yields Instant.Valid := by
  intro o d t h
  simp only [instant] at h
  split at h
  · exact Instant.valid_of_parse (Except.mapError_eq_ok.1 h)
  · cases h

theorem instant_writes (p : Instant.Precision) : (instant p).Writes fun _ => True :=
  fun t _ => Json.plain_string (t.text p)

theorem instant_restores : (instant .exact).Restores Instant.Valid := by
  intro o t ht
  have hparse := Instant.parse_text ht
  simp only [Codec.instant, ofJson]
  simp only [hparse, Except.mapError_ok]

theorem instant_restoresAs : (instant .seconds).RestoresAs (·.wholeSecond) Instant.Valid := by
  intro o t ht
  have hparse := Instant.parse_text_seconds ht
  simp only [Codec.instant, ofJson]
  simp only [hparse, Except.mapError_ok]

theorem raw_writes : raw.Writes Json.Proper Json.Proper := fun _ h => h

theorem raw_restores : raw.Restores Json.Proper := by
  intro o j hj
  simp only [raw, Document.value_ofJson hj.canonical, Except.mapError_ok]

theorem enumeration_writes (variants : List (String × α)) (name : α → String) :
    (enumeration variants name).Writes fun _ => True := fun a _ => Json.plain_string (name a)

theorem enumeration_restores {variants : List (String × α)} {name : α → String}
    (h : ∀ a, variant? variants (name a) = .ok a) :
    (enumeration variants name).Restores fun _ => True := fun _ a _ => h a

theorem Yields.list (h : c.Yields P) : c.list.Yields fun xs => ∀ x ∈ xs, P x := by
  intro o d xs hd x hx
  simp only [Codec.list] at hd
  split at hd
  · obtain ⟨e, -, he⟩ := (Except.mem_iff_of_mapM_eq_ok hd).1 hx
    exact h o e x he
  · cases hd

theorem Writes.list [Json.Form W] (h : c.Writes P W) :
    c.list.Writes (fun xs => ∀ x ∈ xs, P x) W := by
  intro xs hxs
  refine Json.Form.array _ ?_
  intro j hj
  obtain ⟨x, hx, rfl⟩ := List.mem_map.1 hj
  exact h x (hxs x hx)

theorem Restores.list (h : c.Restores P) : c.list.Restores fun xs => ∀ x ∈ xs, P x := by
  intro o xs hxs
  simp only [Codec.list, ofJson, Document.ofItems_eq_map, List.map_map]
  exact Except.mapM_map_eq_ok fun x hx => h o x (hxs x hx)

theorem RestoresAs.list {f : α → α} (h : c.RestoresAs f P) :
    c.list.RestoresAs (List.map f) fun xs => ∀ x ∈ xs, P x := by
  intro o xs hxs
  simp only [Codec.list, ofJson, Document.ofItems_eq_map, List.map_map]
  exact Except.mapM_map_eq_map fun x hx => h o x (hxs x hx)

theorem dict_yields : c.dict.Yields Dict.Sorted := by
  intro o d xs hd
  simp only [dict] at hd
  split at hd
  · obtain ⟨entries, -, rfl⟩ := Except.map_eq_ok.1 hd
    exact Dict.sorted_ofList entries
  · cases hd

theorem Writes.dict [Json.Form W] (h : c.Writes (fun _ => True) W) : c.dict.Writes Dict.Sorted W := by
  intro d hd
  refine Json.Form.object _ (hd.map c.encode) ?_
  intro e he
  obtain ⟨x, -, rfl⟩ := List.mem_map.1 he
  exact h x.2 True.intro

theorem decodeMembers_map_eq_ok {β : Type} {f : Document → Except String α} {g : β → Document}
    {r : β → α} {d : List (String × β)} (h : ∀ e ∈ d, f (g e.2) = .ok (r e.2)) :
    decodeMembers f (d.map fun e => (e.1, g e.2)) = .ok (d.map fun e => (e.1, r e.2)) := by
  induction d with
  | nil => rfl
  | cons e rest ih =>
    have hrest := ih fun x hx => h x (List.mem_cons_of_mem _ hx)
    simp only [List.map_cons, decodeMembers, h e List.mem_cons_self, hrest]
    rfl

theorem Restores.dict (h : c.Restores fun _ => True) : c.dict.Restores Dict.Sorted := by
  intro o d hd
  have hread : decodeMembers (c.decode o) (d.map fun e => (e.1, ofJson (c.encode e.2))) = .ok d := by
    simpa only [id, List.map_id'] using
      decodeMembers_map_eq_ok (g := fun a => ofJson (c.encode a)) (r := id) fun e _ =>
        h o e.2 True.intro
  simp only [Codec.dict, ofJson, Document.ofMembers_eq_map, List.map_map, Function.comp_def]
  exact Except.map_eq_ok.2 ⟨d, hread, hd.ofList_eq⟩

theorem Yields.option (h : c.Yields P) : c.option.Yields fun a => ∀ x, a = some x → P x := by
  rintro o d a hd x rfl
  simp only [Codec.option] at hd
  split at hd
  · cases hd
  · obtain ⟨y, hy, heq⟩ := Except.map_eq_ok.1 hd
    obtain rfl := Option.some.inj heq
    exact h o d y hy

/-- A raw value that is not left out is not null. -/
theorem raw_option_yields : raw.option.Yields fun a => ∀ j, a = some j → j.Proper := by
  rintro o d a h j rfl
  simp only [option] at h
  split at h
  · cases h
  · next hd =>
    obtain ⟨x, hx, heq⟩ := Except.map_eq_ok.1 h
    obtain rfl := Option.some.inj heq
    have hvalue := Except.mapError_eq_ok.1 hx
    refine ⟨Document.canonical_of_value hvalue, ?_⟩
    rintro rfl
    exact hd (Document.eq_null_of_value hvalue)

theorem option_decode_ofJson {o : Origin} {j : Json} (hj : j ≠ .null) {a : Option α} :
    c.option.decode o (ofJson j) = .ok a ↔ ∃ x, c.decode o (ofJson j) = .ok x ∧ some x = a := by
  cases j <;> first
    | exact absurd rfl hj
    | exact Except.map_eq_ok

end Codec

namespace Record

variable {R S α β : Type}

/-! ## What records yield -/

structure Yields (r : Record R α) (Q : α → Prop) : Prop where
  ofMembers : ∀ o d a, r.read o d = .ok a → Q a
  ofItems : ∀ o n items a rest, r.readItems o n items = .ok (a, rest) → Q a

namespace Yields

variable {Q : α → Prop} {Q' : β → Prop}

theorem any {r : Record R α} : r.Yields fun _ => True :=
  ⟨fun _ _ _ _ => True.intro, fun _ _ _ _ _ _ => True.intro⟩

theorem map {r : Record R α} {f : α → β} (h : r.Yields Q) (hf : ∀ a, Q a → Q' (f a)) :
    (f <$> r).Yields Q' where
  ofMembers o d b hd := by
    obtain ⟨a, ha, rfl⟩ := read_map_eq_ok.1 hd
    exact hf a (h.ofMembers o d a ha)
  ofItems o n items b rest hd := by
    obtain ⟨⟨a, rest'⟩, ha, heq⟩ := Except.map_eq_ok.1 hd
    obtain ⟨rfl, rfl⟩ := Prod.mk.inj heq
    exact hf a (h.ofItems o n items a _ ha)

theorem seq {f : Record R (α → β)} {x : Record R α} (hf : f.Yields fun g => ∀ a, Q a → Q' (g a))
    (hx : x.Yields Q) : (f <*> x).Yields Q' where
  ofMembers o d b hd := by
    obtain ⟨g, a, hg, ha, rfl⟩ := read_seq_eq_ok.1 hd
    exact hf.ofMembers o d g hg a (hx.ofMembers o d a ha)
  ofItems o n items b rest hd := by
    obtain ⟨⟨g, rest₁⟩, hg, hd⟩ := Except.bind_eq_ok.1 hd
    obtain ⟨⟨a, rest₂⟩, ha, heq⟩ := Except.bind_eq_ok.1 hd
    obtain ⟨rfl, -⟩ := Prod.mk.inj (Except.ok.inj heq)
    exact hf.ofItems o n items g rest₁ hg a (hx.ofItems o _ rest₁ a rest₂ ha)

theorem lastOf_eq_some {decode : Document → Except String α} {ds : List Document} {a : α}
    (h : lastOf decode ds = .ok (some a)) : ∃ d, decode d = .ok a := by
  fun_induction lastOf decode ds with
  | case1 => cases h
  | case2 d =>
    obtain ⟨b, hb, heq⟩ := Except.map_eq_ok.1 h
    exact ⟨d, Option.some.inj heq ▸ hb⟩
  | case3 d rest _ ih =>
    obtain ⟨_, -, h⟩ := Except.bind_eq_ok.1 h
    exact ih h

theorem member {key : String} {schema : Dict Json}
    {decode : Origin → Document → Except String α} {absent itemAbsent : Option α}
    {write : R → Option Json} (hd : ∀ o d a, decode o d = .ok a → Q a)
    (ha : ∀ a, absent = some a → Q a) (hi : ∀ a, itemAbsent = some a → Q a) :
    (member key schema decode absent itemAbsent write).Yields Q where
  ofMembers o d a h := by
    simp only [Record.member] at h
    split at h
    · next b hb =>
      obtain rfl := Except.ok.inj h
      obtain ⟨d', hd'⟩ := lastOf_eq_some hb
      exact hd o d' b hd'
    · split at h
      · exact Except.ok.inj h ▸ ha _ rfl
      · cases h
    · cases h
  ofItems o n items a rest h := by
    simp only [Record.member] at h
    cases items with
    | nil =>
      simp only [nextItem] at h
      split at h
      · exact (Prod.mk.inj (Except.ok.inj h)).1 ▸ hi _ rfl
      · cases h
    | cons d ds =>
      simp only [nextItem] at h
      split at h
      · next b hb => exact (Prod.mk.inj (Except.ok.inj h)).1 ▸ hd o d b hb
      · cases h

section Members

variable {key doc : String} {c : Codec α}

theorem optional {get : R → Option α} (h : c.Yields Q) :
    (optional key c get doc).Yields fun a => ∀ x, a = some x → Q x :=
  member h.option (by simp) (by simp)

theorem list {get : R → List α} (h : c.Yields Q) :
    (Record.list key c get doc).Yields fun xs => ∀ x ∈ xs, Q x :=
  member h.list
    (fun _ ha => by obtain rfl := Option.some.inj ha; exact fun _ hx => nomatch hx)
    (fun _ ha => by obtain rfl := Option.some.inj ha; exact fun _ hx => nomatch hx)

theorem dict {get : R → Dict String} : (Record.dict key get doc).Yields Dict.Sorted :=
  member Codec.dict_yields
    (fun _ ha => by obtain rfl := Option.some.inj ha; exact .nil)
    (fun _ ha => by obtain rfl := Option.some.inj ha; exact .nil)

end Members

theorem within {r : Record S α} {get : R → S} (h : r.Yields Q) : (r.within get).Yields Q :=
  ⟨h.ofMembers, h.ofItems⟩

theorem flatten {r : Record S α} {get : R → S} (h : r.Yields Q) : (r.flatten get).Yields Q where
  ofMembers o d a hd := by
    simp only [Record.flatten] at hd
    split at hd
    · cases hd
    · exact h.ofMembers _ d a (Except.mapError_eq_ok.1 hd)
  ofItems o n items a rest hd := by cases hd

theorem codec {name doc : String} {r : Record α α} (h : r.Yields Q) :
    (codec name doc r).Yields Q := by
  intro o d a hd
  simp only [Record.codec] at hd
  split at hd
  · exact h.ofMembers _ _ a (read_of_decodeDistinct hd)
  · simp only [decodeItems] at hd
    split at hd
    · cases hd
    · cases hd
    · next hitems => exact Except.ok.inj hd ▸ h.ofItems _ _ _ _ _ hitems
    · split at hd <;> cases hd
  · cases hd

theorem objectCodec {expected doc : String} {r : Record α α} (h : r.Yields Q) :
    (objectCodec expected doc r).Yields Q := by
  intro o d a hd
  simp only [Record.objectCodec] at hd
  split at hd
  · exact h.ofMembers _ _ a (decodeMembers_eq_ok.1 hd)
  · cases hd

theorem gatheringCodec {expected doc : String} {r : Record α α} (h : r.Yields Q) :
    (gatheringCodec expected doc r).Yields Q := by
  intro o d a hd
  simp only [Record.gatheringCodec] at hd
  split at hd
  · split at hd
    · cases hd
    · exact h.ofMembers _ _ a (read_of_decodeDistinct hd)
  · cases hd

end Yields

/-! ## What records write -/

/-- Of values that satisfy `P` all members are plain, or of another form. -/
def Writes (r : Record R α) (P : R → Prop) (W : Json → Prop := Json.Plain) : Prop :=
  ∀ x, P x → ∀ e ∈ r.write x, W e.2

namespace Writes

variable {P : R → Prop} {Q : α → Prop} {W : Json → Prop}

theorem map {r : Record R α} (h : r.Writes P W) (f : α → β) : (f <$> r).Writes P W := h

theorem seq {f : Record R (α → β)} {x : Record R α} (hf : f.Writes P W) (hx : x.Writes P W) :
    (f <*> x).Writes P W := fun r hr e he =>
  (List.mem_append.1 he).elim (hf r hr e) (hx r hr e)

theorem member {key : String} {schema : Dict Json}
    {decode : Origin → Document → Except String α} {absent itemAbsent : Option α}
    {write : R → Option Json} (h : ∀ x, P x → ∀ j, write x = some j → W j) :
    (member key schema decode absent itemAbsent write).Writes P W := by
  intro x hx e he
  cases hj : write x with
  | none => simp [Record.member, hj] at he
  | some j =>
    simp only [Record.member, hj] at he
    obtain rfl := List.mem_singleton.1 he
    exact h x hx j hj

section Members

variable {key doc : String} {c : Codec α}

theorem required {get : R → α} (h : c.Writes Q W) (hP : ∀ x, P x → Q (get x)) :
    (required key c get doc).Writes P W :=
  member fun x hx _ hj => Option.some.inj hj ▸ h _ (hP x hx)

theorem optional {get : R → Option α} (h : c.Writes Q W)
    (hP : ∀ x, P x → ∀ a, get x = some a → Q a) : (optional key c get doc).Writes P W :=
  member fun x hx j hj => by
    obtain ⟨a, ha, rfl⟩ := Option.map_eq_some_iff.1 hj
    exact h a (hP x hx a ha)

theorem omittable [Inhabited α] {isEmpty : α → Bool} {get : R → α} (h : c.Writes Q W)
    (hP : ∀ x, P x → Q (get x)) : (omittable key c isEmpty get doc).Writes P W :=
  member fun x hx j hj => by
    split at hj
    · cases hj
    · exact Option.some.inj hj ▸ h _ (hP x hx)

theorem defaulted {fallback : α} {get : R → α} (h : c.Writes Q W) (hP : ∀ x, P x → Q (get x)) :
    (defaulted key c fallback get doc).Writes P W :=
  member fun x hx _ hj => Option.some.inj hj ▸ h _ (hP x hx)

theorem filled [Inhabited α] {get : R → α} (h : c.Writes Q W) (hP : ∀ x, P x → Q (get x)) :
    (filled key c get).Writes P W :=
  member fun x hx _ hj => Option.some.inj hj ▸ h _ (hP x hx)

theorem list [Json.Form W] {get : R → List α} (h : c.Writes Q W)
    (hP : ∀ x, P x → ∀ a ∈ get x, Q a) : (Record.list key c get doc).Writes P W :=
  omittable h.list hP

theorem dict {get : R → Dict String} (hP : ∀ x, P x → (get x).Sorted) :
    (Record.dict key get doc).Writes P :=
  omittable (Codec.Writes.dict Codec.string_writes) hP

end Members

theorem unit : (Record.unit (R := R)).Writes P W := fun _ _ _ he => nomatch he

theorem within {r : Record S α} {get : R → S} {P' : S → Prop} (h : r.Writes P' W)
    (hP : ∀ x, P x → P' (get x)) : (r.within get).Writes P W := fun x hx => h (get x) (hP x hx)

theorem flatten {r : Record S α} {get : R → S} {P' : S → Prop} (h : r.Writes P' W)
    (hP : ∀ x, P x → P' (get x)) : (r.flatten get).Writes P W := fun x hx => h (get x) (hP x hx)

theorem encode [Json.Form W] {r : Record R α} (h : r.Writes P W) {x : R} (hx : P x) :
    W (r.encode x) :=
  Json.Form.object _ (Dict.sorted_ofList _) fun e he => h x hx e (Dict.mem_ofList he)

theorem codec [Json.Form W] {name doc : String} {r : Record R R} (h : r.Writes P W) :
    (Record.codec name doc r).Writes P W := fun _ hx => h.encode hx

theorem objectCodec [Json.Form W] {expected doc : String} {r : Record R R} (h : r.Writes P W) :
    (Record.objectCodec expected doc r).Writes P W := fun _ hx => h.encode hx

theorem gatheringCodec [Json.Form W] {expected doc : String} {r : Record R R} (h : r.Writes P W) :
    (Record.gatheringCodec expected doc r).Writes P W := fun _ hx => h.encode hx

end Writes

/-! ## What records restore -/

/-- From the members that are written of a value that satisfies `P`, and from no other of its own,
the record reads `get` of it. -/
structure Restores (r : Record R α) (get : R → α) (P : R → Prop) : Prop where
  keys : ∀ x, ((r.write x).map (·.1)).Sublist r.keys
  read : r.keys.Nodup → ∀ o x (m : Dict Json), P x → m.Sorted →
    (∀ k ∈ r.keys, m.get? k = Dict.get? (r.write x) k) → r.read o (ofMembers m) = .ok (get x)

namespace Restores

variable {P : R → Prop} {Q : α → Prop} {W : Json → Prop}

theorem get?_write {r : Record R α} {get : R → α} (h : r.Restores get P) {x : R} {k : String}
    (hk : k ∉ r.keys) : Dict.get? (r.write x) k = none :=
  Dict.get?_eq_none_of_not_mem fun hm => hk ((h.keys x).subset hm)

theorem map {r : Record R α} {get : R → α} (h : r.Restores get P) (f : α → β) :
    (f <$> r).Restores (fun x => f (get x)) P where
  keys := h.keys
  read hn o x m hx hm hk := read_map_eq_ok.2 ⟨_, h.read hn o x m hx hm hk, rfl⟩

theorem seq {f : Record R (α → β)} {x : Record R α} {getf : R → α → β} {getx : R → α}
    (hf : f.Restores getf P) (hx : x.Restores getx P) :
    (f <*> x).Restores (fun r => getf r (getx r)) P where
  keys r := by
    rw [keys_seq]
    show ((f.write r ++ x.write r).map (·.1)).Sublist (f.keys ++ x.keys)
    rw [List.map_append]
    exact (hf.keys r).append (hx.keys r)
  read hn o r m hr hm hk := by
    rw [keys_seq] at hn hk
    obtain ⟨hnf, hnx, hdis⟩ := List.nodup_append.1 hn
    have hwrite : (f <*> x).write r = f.write r ++ x.write r := rfl
    refine read_seq_eq_ok.2 ⟨_, _, hf.read hnf o r m hr hm fun k hkf => ?_,
      hx.read hnx o r m hr hm fun k hkx => ?_, rfl⟩
    · have hnone := hx.get?_write (x := r) fun hkx => hdis k hkf k hkx rfl
      rw [hk k (List.mem_append_left _ hkf), hwrite, Dict.get?_append, hnone, Option.or_none]
    · have hnone := hf.get?_write (x := r) fun hkf => hdis k hkf k hkx rfl
      rw [hk k (List.mem_append_right _ hkx), hwrite, Dict.get?_append, hnone, Option.none_or]

theorem member {key : String} {schema : Dict Json}
    {decode : Origin → Document → Except String α} {absent itemAbsent : Option α}
    {write : R → Option Json} {get : R → α}
    (h : ∀ o x, P x → Holds (decode o) absent (write x) (get x)) :
    (member key schema decode absent itemAbsent write).Restores get P where
  keys x := by
    simp only [Record.member]
    split
    · exact List.Sublist.refl _
    · exact List.nil_sublist _
  read _ o x m hx hm hk := by
    refine (read_member hm).2 ?_
    rw [hk key (List.mem_singleton.2 rfl)]
    simp only [Record.member]
    cases hw : write x with
    | none => simpa [hw] using h o x hx
    | some j => simpa [hw, Dict.get?_cons] using h o x hx

theorem holds_optional_as [Json.Form W] {c : Codec α} {o : Origin} {a : Option α} {f : α → α}
    (hw : c.Writes Q W) (hr : c.RestoresAs f Q) (hQ : ∀ x, a = some x → Q x) :
    Holds (c.option.decode o) (some none) (a.map c.encode) (a.map f) := by
  cases a with
  | none => rfl
  | some x =>
    have hx := hQ x rfl
    exact (Codec.option_decode_ofJson (hw.proper x hx).ne_null).2 ⟨f x, hr o x hx, rfl⟩

theorem holds_optional [Json.Form W] {c : Codec α} {o : Origin} {a : Option α} (hw : c.Writes Q W)
    (hr : c.Restores Q) (hQ : ∀ x, a = some x → Q x) :
    Holds (c.option.decode o) (some none) (a.map c.encode) a := by
  simpa using holds_optional_as (f := id) hw hr hQ

section Members

variable {key doc : String} {c : Codec α}

theorem required {get : R → α} (h : c.Restores Q) (hP : ∀ x, P x → Q (get x)) :
    (required key c get doc).Restores get P :=
  member fun o x hx => h o _ (hP x hx)

theorem optional [Json.Form W] {get : R → Option α} (hw : c.Writes Q W) (hr : c.Restores Q)
    (hP : ∀ x, P x → ∀ a, get x = some a → Q a) : (optional key c get doc).Restores get P :=
  member fun _ x hx => holds_optional hw hr (hP x hx)

theorem optional_as [Json.Form W] {get : R → Option α} {f : α → α} (hw : c.Writes Q W)
    (hr : c.RestoresAs f Q) (hP : ∀ x, P x → ∀ a, get x = some a → Q a) :
    (Record.optional key c get doc).Restores (fun x => (get x).map f) P :=
  member fun _ x hx => holds_optional_as hw hr (hP x hx)

theorem omittable [Inhabited α] {isEmpty : α → Bool} {get : R → α} (h : c.Restores Q)
    (he : ∀ a, isEmpty a = true → a = default) (hP : ∀ x, P x → Q (get x)) :
    (omittable key c isEmpty get doc).Restores get P :=
  member fun o x hx => by
    by_cases hempty : isEmpty (get x) = true
    · simp only [hempty, if_true, Holds]
      rw [he _ hempty]
    · simp only [hempty]
      exact h o _ (hP x hx)

theorem defaulted {fallback : α} {get : R → α} (h : c.Restores Q) (hP : ∀ x, P x → Q (get x)) :
    (defaulted key c fallback get doc).Restores get P :=
  member fun o x hx => h o _ (hP x hx)

theorem filled_as [Inhabited α] [Json.Form W] {get : R → α} {f : α → α} (hw : c.Writes Q W)
    (h : c.RestoresAs f Q) (hP : ∀ x, P x → Q (get x)) :
    (Record.filled key c get).Restores (fun x => f (get x)) P :=
  member fun o x hx => by
    have hread := (Codec.option_decode_ofJson (hw.proper _ (hP x hx)).ne_null).2
      ⟨f (get x), h o _ (hP x hx), rfl⟩
    simp only [Holds, hread, Except.map, Option.getD_some]

theorem filled [Inhabited α] [Json.Form W] {get : R → α} (hw : c.Writes Q W) (h : c.Restores Q)
    (hP : ∀ x, P x → Q (get x)) : (filled key c get).Restores get P :=
  filled_as (f := id) hw h hP

theorem list {get : R → List α} (h : c.Restores Q) (hP : ∀ x, P x → ∀ a ∈ get x, Q a) :
    (Record.list key c get doc).Restores get P :=
  omittable h.list (fun _ he => List.isEmpty_iff.1 he) hP

theorem dict {get : R → Dict String} (hP : ∀ x, P x → (get x).Sorted) :
    (Record.dict key get doc).Restores get P :=
  omittable (Codec.Restores.dict Codec.string_restores) (fun _ he => List.isEmpty_iff.1 he) hP

end Members

theorem unit : (Record.unit (R := R)).Restores (fun _ => ()) P :=
  ⟨fun _ => List.nil_sublist _, fun _ _ _ _ _ _ _ => rfl⟩

theorem within {r : Record S α} {get : R → S} {get' : S → α} {P' : S → Prop}
    (h : r.Restores get' P') (hP : ∀ x, P x → P' (get x)) :
    (r.within get).Restores (fun x => get' (get x)) P where
  keys x := h.keys (get x)
  read hn o x m hx hm hk := h.read hn o (get x) m (hP x hx) hm hk

/-- The members of the part are set aside and can all be read, so that none of them is in the way. -/
theorem flatten [Json.Form W] {r : Record S α} {get : R → S} {get' : S → α} {P' : S → Prop}
    (hw : r.Writes P' W) (h : r.Restores get' P') (hP : ∀ x, P x → P' (get x)) :
    (r.flatten get).Restores (fun x => get' (get x)) P where
  keys x := h.keys (get x)
  read hn o x m hx hm hk := by
    have hcanonical : ∀ e ∈ m.filter fun e => r.hasMember e.1, e.2.Canonical := by
      intro e he
      obtain ⟨hmem, hown⟩ := List.mem_filter.1 he
      have hkey : e.1 ∈ r.keys := by
        obtain ⟨p, hp, hpe⟩ := List.any_eq_true.1 hown
        exact List.mem_map.2 ⟨p, hp, by simpa using hpe⟩
      have hwritten := (hk e.1 hkey).symm.trans (hm.get?_of_mem hmem)
      exact (Json.Form.proper _ (hw (get x) (hP x hx) _ (Dict.mem_of_get? hwritten))).canonical
    have hnone : Document.firstFault? ((ofMembers m).filter fun e => r.hasMember e.1) = none := by
      rw [Document.filter_ofMembers]
      exact Document.firstFault?_ofMembers hcanonical
    simp only [Record.flatten, hnone]
    rw [h.read hn .buffered (get x) m (hP x hx) hm hk, Except.mapError_ok]

/-- The written members, in key order, are read back. -/
theorem read_encode {r : Record R α} {get : R → α} (h : r.Restores get P) (hn : r.keys.Nodup)
    (o : Origin) {x : R} (hx : P x) :
    r.read o (ofMembers (Dict.ofList (r.write x))) = .ok (get x) :=
  h.read hn o x _ hx (Dict.sorted_ofList _) fun k _ =>
    Dict.get?_ofList (hn.sublist (h.keys x)) k

theorem codec {name doc : String} {r : Record R R} (h : r.Restores id P) (hn : r.keys.Nodup) :
    (codec name doc r).Restores P := fun o _ hx =>
  (codec_decode_object (Dict.sorted_ofList _)).2 (h.read_encode hn o hx)

theorem objectCodec_as {expected doc : String} {r : Record R R} {f : R → R} (h : r.Restores f P)
    (hn : r.keys.Nodup) : (objectCodec expected doc r).RestoresAs f P := fun o _ hx =>
  objectCodec_decode_object.2 (h.read_encode hn o hx)

theorem objectCodec {expected doc : String} {r : Record R R} (h : r.Restores id P)
    (hn : r.keys.Nodup) : (objectCodec expected doc r).Restores P :=
  objectCodec_as h hn

theorem gatheringCodec [Json.Form W] {expected doc : String} {r : Record R R}
    (hw : (gatheringCodec expected doc r).Writes P W) (h : r.Restores id P) (hn : r.keys.Nodup) :
    (gatheringCodec expected doc r).Restores P := by
  intro o x hx
  have hplain := Json.canonical_object.1 (hw.proper x hx).canonical
  have hnone : Document.firstFault? ((ofMembers (Dict.ofList (r.write x))).filter fun e =>
      !r.hasMember e.1) = none := by
    rw [Document.filter_ofMembers (fun k => !r.hasMember k)]
    exact Document.firstFault?_ofMembers fun e he => hplain.2 e (List.mem_filter.1 he).1
  have hread := (decodeDistinct_eq_ok hplain.1).2 (h.read_encode hn o hx)
  simp only [Record.gatheringCodec, Record.encode, Json.ofMembers, ofJson, hnone]
  exact hread

end Restores

end Record

end ControlPlane
