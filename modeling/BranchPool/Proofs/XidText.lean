/-
The texts of branch identifiers.

* `Xid.text_unique` — the text by which messages and reports name a branch spells its parts
  and no others, so different branches are named differently;
* `Snapshot.Describes` — whether a JSON value gives the parts of a branch, as an object or
  by place;
* `Snapshot.read_xid_eq_ok_iff` — a branch is read from the values that describe it;
* `Snapshot.xid_texts` — a branch is read back from its own text, the texts from which one is
  read are those of the values that describe it, and a part of more than 64 bytes is refused
  as it is when a branch is made of parts.
-/
import BranchPool.Proofs.Snapshot

namespace BranchPool

namespace Xid

/-- Different branches are named by different texts, and the parts of a branch are the only
ones, of whatever length, that its text spells. -/
theorem text_unique (x : Xid) :
    (∀ y : Xid, x.text = y.text → x = y) ∧
      Spells x.text x.formatId x.globalId x.qualifier ∧
      (∀ formatId globalId qualifier, Spells x.text formatId globalId qualifier →
        formatId = x.formatId ∧ globalId = x.globalId ∧ qualifier = x.qualifier) ∧
      partsOfText? x.text = some (x.formatId, x.globalId, x.qualifier) := by
  refine ⟨fun y => text_injective, x.spells_text, fun f g q hspells => ?_, x.partsOfText?_text⟩
  have hparts := (partsOfText?_of_spells hspells).symm.trans x.partsOfText?_text
  simpa using hparts

/-- Parts make a branch if they are those of one. -/
theorem ofParts_eq_ok_iff {formatId : Int32} {globalId qualifier : List UInt8} {x : Xid} :
    ofParts formatId globalId qualifier = .ok x ↔
      x.formatId = formatId ∧ x.globalId = globalId ∧ x.qualifier = qualifier := by
  constructor
  · intro h
    rw [ofParts] at h
    split at h
    · split at h
      · cases h
        exact ⟨rfl, rfl, rfl⟩
      · cases h
    · cases h
  · rintro ⟨rfl, rfl, rfl⟩
    rw [ofParts, dif_pos x.globalId_le, dif_pos x.qualifier_le]

section Oversized

variable {formatId : Int32} {globalId qualifier : List UInt8}

theorem ofParts_of_globalId (hglobal : 64 < globalId.length) :
    ofParts formatId globalId qualifier = .error (.globalId globalId.length) :=
  dif_neg (Nat.not_le.mpr hglobal)

theorem ofParts_of_qualifier (hglobal : globalId.length ≤ 64) (hqualifier : 64 < qualifier.length) :
    ofParts formatId globalId qualifier = .error (.qualifier qualifier.length) :=
  (dif_pos hglobal).trans (dif_neg (Nat.not_le.mpr hqualifier))

theorem append_max (reason : String) :
    reason ++ " bytes, max " ++ toString maxPartSize = reason ++ " bytes, max 64" := by
  have hmax : toString maxPartSize = "64" := by decide
  have hjoin : " bytes, max " ++ "64" = " bytes, max 64" := by decide
  rw [hmax, String.append_assoc, hjoin]

theorem message_globalId (size : Nat) :
    (Oversized.globalId size).message =
      "global transaction id is " ++ toString size ++ " bytes, max 64" :=
  append_max ("global transaction id is " ++ toString size)

theorem message_qualifier (size : Nat) :
    (Oversized.qualifier size).message =
      "branch qualifier is " ++ toString size ++ " bytes, max 64" :=
  append_max ("branch qualifier is " ++ toString size)

end Oversized

end Xid

namespace Snapshot

/-! ### Values that describe a branch -/

/-- Whether a value is a list of the given bytes, each as a number. -/
def IsBytes (v : Json) (bs : List UInt8) : Prop :=
  ∃ items, v = .array items ∧ items.map Json.int? = bs.map fun b => some (b.toNat : Int)

/-- The names of the parts of a branch, in their order. -/
def xidFields : List String := ["format_id", "global_transaction_id", "branch_qualifier"]

/-- Whether a value describes a branch by its parts, of any length. -/
def Describes (v : Json) (formatId : Int32) (globalId qualifier : List UInt8) : Prop :=
  ∃ vf vg vq, v.HasFields xidFields [vf, vg, vq] ∧
    vf.int? = some formatId.toInt ∧ IsBytes vg globalId ∧ IsBytes vq qualifier

variable {v : Json} {formatId : Int32} {globalId qualifier : List UInt8} {x : Xid}

theorem int32?_eq_some_iff : int32? v = some formatId ↔ v.int? = some formatId.toInt := by
  cases hint : v.int? with
  | none => simp [int32?, hint]
  | some i =>
    simp only [int32?, hint, Option.bind_eq_bind, Option.bind_some, Option.some.injEq]
    constructor
    · intro h
      split at h
      · next hrange =>
        rw [← Option.some.inj h, Int32.toInt_ofInt_of_le hrange.1 (Int.lt_add_one_of_le hrange.2)]
      · cases h
    · rintro rfl
      rw [if_pos ⟨formatId.minValue_le_toInt, formatId.toInt_le⟩, Int32.ofInt_toInt]

theorem byte?_eq_some_iff {b : UInt8} :
    (v.natBelow? 256).map UInt8.ofNat = some b ↔ v.int? = some (b.toNat : Int) := by
  have hb : b.toNat < 256 := b.toNat_lt
  cases hint : v.int? with
  | none => simp [Json.natBelow?, hint]
  | some i =>
    simp only [Json.natBelow?, hint, Option.bind_eq_bind, Option.bind_some, Option.some.injEq]
    constructor
    · intro h
      split at h
      · next hrange =>
        have hsmall : i.toNat < UInt8.size := (Int.toNat_lt hrange.1).mpr hrange.2
        rw [← Option.some.inj h, UInt8.toNat_ofNat_of_lt' hsmall, Int.toNat_of_nonneg hrange.1]
      · cases h
    · rintro rfl
      rw [if_pos ⟨Int.natCast_nonneg _, Int.ofNat_lt.mpr hb⟩]
      simp

theorem bytes?_eq_some_iff {bs : List UInt8} : bytes? v = some bs ↔ IsBytes v bs := by
  cases v with
  | array items =>
    have hitems : items.map (fun v => (v.natBelow? 256).map UInt8.ofNat) = bs.map some ↔
        items.map Json.int? = bs.map fun b => some (b.toNat : Int) := by
      induction items generalizing bs with
      | nil => cases bs <;> simp
      | cons v items ih =>
        cases bs with
        | nil => simp
        | cons b bs => simp only [List.map_cons, List.cons.injEq, byte?_eq_some_iff, ih]
    rw [bytes?, Json.mapM_eq_some_iff, hitems]
    refine ⟨fun h => ⟨items, rfl, h⟩, ?_⟩
    rintro ⟨_, heq, h⟩
    cases heq
    exact h
  | _ => exact ⟨nofun, by rintro ⟨_, h, -⟩; cases h⟩

theorem xidParts?_eq_some_iff :
    xidParts? v = some (formatId, globalId, qualifier) ↔ Describes v formatId globalId qualifier := by
  have hnames : xidFields.Nodup := by decide
  constructor
  · intro h
    rw [xidParts?, Option.bind_eq_bind, Option.bind_eq_some_iff] at h
    obtain ⟨fields, hfields, h⟩ := h
    split at h
    · next vf vg vq =>
      simp only [Option.bind_eq_bind, Option.bind_eq_some_iff, Option.pure_def, Option.some.injEq,
        Prod.mk.injEq] at h
      obtain ⟨_, hf, _, hg, _, hq, rfl, rfl, rfl⟩ := h
      exact ⟨vf, vg, vq, (Json.fields?_eq_some_iff hnames).mp hfields, int32?_eq_some_iff.mp hf,
        bytes?_eq_some_iff.mp hg, bytes?_eq_some_iff.mp hq⟩
    · cases h
  · rintro ⟨vf, vg, vq, hfields, hf, hg, hq⟩
    have hfound : v.fields? ["format_id", "global_transaction_id", "branch_qualifier"] .skipped =
        some [some vf, some vg, some vq] := (Json.fields?_eq_some_iff hnames).mpr hfields
    rw [xidParts?, hfound]
    simp [int32?_eq_some_iff.mpr hf, bytes?_eq_some_iff.mpr hg, bytes?_eq_some_iff.mpr hq]

/-! ### Reading -/

/-- What a value describes is taken as the parts of a branch. -/
theorem read_xid_of_describes (h : Describes v formatId globalId qualifier) :
    xid.read v = (Xid.ofParts formatId globalId qualifier).mapError .oversized := by
  show (ofOption (xidParts? v) >>= fun parts =>
    (Xid.ofParts parts.1 parts.2.1 parts.2.2).mapError .oversized) = _
  rw [xidParts?_eq_some_iff.mpr h]
  rfl

theorem read_xid_eq_ok_iff :
    xid.read v = .ok x ↔ Describes v x.formatId x.globalId x.qualifier := by
  constructor
  · intro h
    -- a value that gives no parts is refused before any size is looked at
    cases hparts : xidParts? v with
    | none =>
      have hread : xid.read v = .error .malformed := by
        show (ofOption (xidParts? v) >>= _) = _
        rw [hparts]
        rfl
      cases hread.symm.trans h
    | some parts =>
      obtain ⟨f, g, q⟩ := parts
      have hdescribes := xidParts?_eq_some_iff.mp hparts
      rw [read_xid_of_describes hdescribes] at h
      cases hmade : Xid.ofParts f g q with
      | error e =>
        rw [hmade] at h
        cases h
      | ok y =>
        rw [hmade] at h
        cases h
        -- the parts are read as they stand, so they are those of the branch that is made of them
        obtain ⟨rfl, rfl, rfl⟩ := Xid.ofParts_eq_ok_iff.mp hmade
        exact hdescribes
  · intro h
    rw [read_xid_of_describes h, Xid.ofParts_eq_ok_iff.mpr ⟨rfl, rfl, rfl⟩]
    rfl

theorem isBytes_array (bs : List UInt8) : IsBytes (.array (bs.map fun b => .ofNat b.toNat)) bs := by
  refine ⟨_, rfl, ?_⟩
  rw [List.map_map]
  exact List.map_congr_left fun b _ => Json.int?_ofInt b.toNat

theorem describes_write (x : Xid) : Describes (xid.write x) x.formatId x.globalId x.qualifier :=
  ⟨_, _, _, Json.hasFields_ofFields rfl (.refl _), Json.int?_ofInt _, isBytes_array _,
    isBytes_array _⟩

theorem written_bytes (bs : List UInt8) :
    (Json.array (bs.map fun b => .ofNat b.toNat)).Written := by
  refine .array fun v hv => ?_
  obtain ⟨b, -, rfl⟩ := List.mem_map.mp hv
  exact Json.written_ofNat _

theorem xid_lossless : xid.Lossless where
  written x := by
    refine Json.written_ofFields fun m hm => ?_
    simp only [List.mem_cons, List.not_mem_nil, or_false] at hm
    obtain rfl | rfl | rfl := hm
    · exact Json.written_ofInt _
    · exact written_bytes _
    · exact written_bytes _
  read x := read_xid_eq_ok_iff.mpr (describes_write x)

/-! ### Texts -/

/-- Whether a text is refused for the same reason as the parts that it gives. -/
def RefusedFor (t : String) (formatId : Int32) (globalId qualifier : List UInt8)
    (reason : String) : Prop :=
  ∃ part, Xid.ofParts formatId globalId qualifier = .error part ∧
    read xid t = .error (.oversized part) ∧ Facade.Error.oversized part = .invalidXid reason

theorem read_xid_of_oversized {t : String} {rest : List Char} {part : Xid.Oversized}
    (hvalue : Json.readPrefix? t.toList = some (v, rest))
    (hdescribes : Describes v formatId globalId qualifier)
    (hparts : Xid.ofParts formatId globalId qualifier = .error part) :
    RefusedFor t formatId globalId qualifier part.message := by
  refine ⟨part, hparts, read_of_error hvalue ?_, rfl⟩
  rw [read_xid_of_describes hdescribes, hparts]
  rfl

/-- A branch whose parts have at most 64 bytes is read back from its text, so different branches
have different texts.  A branch is read from just those texts that describe it, with its fields in
any order or by place, and among whatever blanks; its parts have at most 64 bytes, and it is read
back from its own text.  A text that describes a part of more than 64 bytes is refused for the
reason for which these parts make no branch, and the global id is looked at first. -/
theorem xid_texts :
    (∀ (formatId : Int32) (globalId qualifier : List UInt8),
      globalId.length ≤ 64 → qualifier.length ≤ 64 →
        ∃ x, Xid.ofParts formatId globalId qualifier = .ok x ∧ read xid (text xid x) = .ok x) ∧
      (∀ x y : Xid, text xid x = text xid y → x = y) ∧
      (∀ t x,
        (read xid t = .ok x ↔ ∃ v rest, Json.readPrefix? t.toList = some (v, rest) ∧
          Json.skipBlanks rest = [] ∧ Describes v x.formatId x.globalId x.qualifier) ∧
        (read xid t = .ok x →
          x.globalId.length ≤ 64 ∧ x.qualifier.length ≤ 64 ∧ read xid (text xid x) = .ok x)) ∧
      ∀ t v rest formatId globalId qualifier, Json.readPrefix? t.toList = some (v, rest) →
        Describes v formatId globalId qualifier →
          (64 < globalId.length → RefusedFor t formatId globalId qualifier
            ("global transaction id is " ++ toString globalId.length ++ " bytes, max 64")) ∧
          (globalId.length ≤ 64 → 64 < qualifier.length → RefusedFor t formatId globalId qualifier
            ("branch qualifier is " ++ toString qualifier.length ++ " bytes, max 64")) := by
  -- a branch that exists keeps to the sizes, so its own text is always read back
  have hback : ∀ x, read xid (text xid x) = .ok x := fun x =>
    (read_render xid (xid_lossless.written x)).trans (xid_lossless.read x)
  refine ⟨fun f g q hg hq => ?_, fun x y heq => ?_, fun t x => ⟨?_, fun _ => ?_⟩, ?_⟩
  · exact ⟨⟨f, g, q, hg, hq⟩, Xid.ofParts_eq_ok_iff.mpr ⟨rfl, rfl, rfl⟩, hback _⟩
  · exact Except.ok.inj ((hback x).symm.trans ((congrArg (read xid) heq).trans (hback y)))
  · simp only [read_eq_ok_iff, read_xid_eq_ok_iff]
  · exact ⟨x.globalId_le, x.qualifier_le, hback x⟩
  · -- the global part is looked at first, and only then the qualifier
    intro t v rest f g q hvalue hdescribes
    refine ⟨fun hg => ?_, fun hg hq => ?_⟩
    · rw [← Xid.message_globalId]
      exact read_xid_of_oversized hvalue hdescribes (Xid.ofParts_of_globalId hg)
    · rw [← Xid.message_qualifier]
      exact read_xid_of_oversized hvalue hdescribes (Xid.ofParts_of_qualifier hg hq)

/-- The fields of a branch in another order and one more among them, with a qualifier of 65
bytes. -/
theorem xid_texts_of_reordered :
    let bytes := List.replicate 65 (0 : UInt8)
    let v := Json.ofFields [("branch_qualifier", .array (bytes.map fun b => .ofNat b.toNat)),
      ("note", .null), ("format_id", .ofInt (-1)), ("global_transaction_id", .array [.ofNat 255])]
    Json.readPrefix? v.render.toList = some (v, []) ∧ Describes v (-1) [255] bytes ∧
      RefusedFor v.render (-1) [255] bytes "branch qualifier is 65 bytes, max 64" := by
  intro bytes v
  have hwritten : v.Written := by
    refine Json.written_ofFields fun m hm => ?_
    simp only [List.mem_cons, List.not_mem_nil, or_false] at hm
    obtain rfl | rfl | rfl | rfl := hm
    · exact written_bytes bytes
    · exact .null
    · exact Json.written_ofInt (-1)
    · exact written_bytes [255]
  have hvalue : Json.readPrefix? v.render.toList = some (v, []) := by
    rw [Json.render, String.toList_ofList]
    exact Json.readPrefix?_chars hwritten
  have hdescribes : Describes v (-1) [255] bytes := by
    refine ⟨_, _, _, Json.hasFields_ofFields rfl ?_, Json.int?_ofInt _, isBytes_array [255],
      isBytes_array bytes⟩
    exact (List.perm_append_singleton _ [_, _]).symm
  obtain ⟨-, -, -, hrefused⟩ := xid_texts
  have hreason :=
    (hrefused v.render v [] (-1) [255] bytes hvalue hdescribes).2 (by decide) (by decide)
  have hsize : "branch qualifier is " ++ toString bytes.length ++ " bytes, max 64" =
      "branch qualifier is 65 bytes, max 64" := by decide
  exact ⟨hvalue, hdescribes, hsize ▸ hreason⟩

end Snapshot

end BranchPool
