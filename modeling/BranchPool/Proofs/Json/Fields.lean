/-
Which values are records with given fields.

* `Json.HasFields` — whether a value has fields with the given names: an object has each
  once, in any order and among others, and an array has them by place;
* `Json.fields?_eq_some_iff` — these are the values in which the fields are found;
* `Json.hasFields_ofFields`, `Json.fields?_ofFields` — a record that was written field by
  field has them in whatever order they were written, and among whatever others.
-/
import BranchPool.Json.Record
import BranchPool.Proofs.Lookup

namespace BranchPool.Json

/-! ### Looking up names -/

theorem mapM_eq_some_iff {α β : Type} {f : α → Option β} {l : List α} {r : List β} :
    l.mapM f = some r ↔ l.map f = r.map some := by
  induction l generalizing r with
  | nil => cases r <;> simp
  | cons a l ih =>
    cases r with
    | nil => simp [Option.bind_eq_some_iff]
    | cons b r => simp [Option.bind_eq_some_iff, ih]

variable {fields : List (String × Json)} {names : List String} {name : String} {v : Json}
  {vs : List Json}

theorem mem_zip_iff {find : String → Option Json} (h : names.map find = vs.map some) :
    (name, v) ∈ names.zip vs ↔ name ∈ names ∧ find name = some v := by
  induction names generalizing vs with
  | nil => simp
  | cons name' names ih =>
    cases vs with
    | nil => simp at h
    | cons v' vs =>
      obtain ⟨hhead, htail⟩ := List.cons.inj h
      rw [List.zip_cons_cons, List.mem_cons, List.mem_cons, ih htail, Prod.mk.injEq]
      by_cases heq : name = name'
      · subst heq
        simp [hhead, eq_comm]
      · simp [heq]

/-- Each of the fields that were asked for is there once if and only if they are, in some
order, the names with the values that are found for them. -/
theorem nodup_and_lookup_iff (hnames : names.Nodup) :
    (((fields.filter fun m => names.contains m.1).map (·.1)).Nodup ∧
        names.map (fun name => fields.lookup name) = vs.map some) ↔
      names.length = vs.length ∧
        (fields.filter fun m => names.contains m.1).Perm (names.zip vs) := by
  have hkeys : names.length = vs.length → ((names.zip vs).map (·.1)).Nodup := by
    intro hlength
    rwa [show (names.zip vs).map (·.1) = names from List.map_fst_zip (Nat.le_of_eq hlength)]
  constructor
  · rintro ⟨hnodup, hlookup⟩
    have hlength : names.length = vs.length := by simpa using congrArg List.length hlookup
    -- neither list has a name twice, so it is enough that they have the same members
    refine ⟨hlength, (List.perm_ext_iff_of_nodup hnodup.of_map (hkeys hlength).of_map).mpr ?_⟩
    rintro ⟨name, v⟩
    rw [mem_zip_iff hlookup]
    constructor
    · intro hmem
      have hname : name ∈ names := by simpa using (List.mem_filter.mp hmem).2
      exact ⟨hname, lookup_filter hname ▸ (lookup_eq_some_iff_mem hnodup).mpr hmem⟩
    · rintro ⟨hname, hv⟩
      exact (lookup_eq_some_iff_mem hnodup).mp ((lookup_filter hname).trans hv)
  · rintro ⟨hlength, hperm⟩
    have hnodup : ((fields.filter fun m => names.contains m.1).map (·.1)).Nodup :=
      (hperm.map _).nodup_iff.mpr (hkeys hlength)
    refine ⟨hnodup, List.ext_getElem (by simpa using hlength) fun i hi hi' => ?_⟩
    have hzip : i < (names.zip vs).length := by simpa [hlength] using hi'
    rw [List.getElem_map, List.getElem_map, ← lookup_filter (List.getElem_mem _),
      lookup_eq_some_iff_mem hnodup, hperm.mem_iff, ← List.getElem_zip (h := hzip)]
    exact List.getElem_mem hzip

/-! ### Records -/

/-- Whether a value has fields with the given names, and these are their values in the
order of the names. -/
inductive HasFields (names : List String) : Json → List Json → Prop where
  /-- An object has each of them once, in any order and among others. -/
  | object {members : List (List Char × Json)} {fields : List (String × Json)} {vs : List Json}
      (hkeys : members.map (fun m => (string m.1).text?.map (·, m.2)) = fields.map some)
      (hlength : names.length = vs.length)
      (hfields : (fields.filter fun m => names.contains m.1).Perm (names.zip vs)) :
    HasFields names (.object members) vs
  /-- An array has them in the order of the names, and nothing else. -/
  | array {vs : List Json} (hlength : names.length = vs.length) : HasFields names (.array vs) vs

theorem mapM_members_iff {members : List (List Char × Json)} :
    (members.mapM fun (key, v) => (unescape? key).map fun key => (String.ofList key, v)) =
        some fields ↔
      members.map (fun m => (string m.1).text?.map (·, m.2)) = fields.map some := by
  have hkeys : (fun m : List Char × Json => (unescape? m.1).map fun key => (String.ofList key, m.2)) =
      fun m => (string m.1).text?.map (·, m.2) := by
    funext m
    simp [text?, Function.comp_def]
  rw [mapM_eq_some_iff]
  exact iff_of_eq (congrArg (fun f => members.map f = fields.map some) hkeys)

theorem fields?_eq_some_iff (hnames : names.Nodup) :
    v.fields? names .skipped = some (vs.map some) ↔ HasFields names v vs := by
  constructor
  · intro h
    cases v with
    -- a record: its keys are decoded, and each name is found once among them
    | object members =>
      rw [fields?, Option.bind_eq_bind, Option.bind_eq_some_iff] at h
      obtain ⟨fields, hdecode, h⟩ := h
      rw [if_neg (by simp)] at h
      split at h
      · next hnodup =>
        obtain ⟨hlength, hperm⟩ := (nodup_and_lookup_iff hnames).mp ⟨hnodup, Option.some.inj h⟩
        exact .object (mapM_members_iff.mp hdecode) hlength hperm
      · cases h
    | array items =>
      -- an array: its items are the values, if there are as many as names
      rw [fields?] at h
      split at h
      · next hlength =>
        obtain rfl : items = vs :=
          List.map_injective_iff.mpr (fun _ _ => Option.some.inj) (Option.some.inj h)
        exact .array hlength.symm
      · cases h
    | _ => cases h
  · intro h
    cases h with
    | object hkeys hlength hfields =>
      obtain ⟨hnodup, hlookup⟩ := (nodup_and_lookup_iff hnames).mpr ⟨hlength, hfields⟩
      rw [fields?, mapM_members_iff.mpr hkeys, Option.bind_eq_bind, Option.bind_some,
        if_neg (by simp), if_pos hnodup, hlookup]
    | array hlength => rw [fields?, if_pos hlength.symm]

/-! ### Records that were written field by field -/

theorem map_members_ofFields (fields : List (String × Json)) :
    (fields.map fun m => (escape m.1.toList, m.2)).map
      (fun m => (string m.1).text?.map (·, m.2)) = fields.map some := by
  rw [List.map_map]
  refine List.map_congr_left fun m _ => ?_
  simp [text?, unescape?_escape]

theorem hasFields_ofFields (hlength : names.length = vs.length)
    (hfields : (fields.filter fun m => names.contains m.1).Perm (names.zip vs)) :
    HasFields names (ofFields fields) vs :=
  .object (map_members_ofFields fields) hlength hfields

theorem fields?_ofFields (names : List String) (unknown : Unknown) (fields : List (String × Json)) :
    fields? names unknown (ofFields fields) =
      if unknown = .refused ∧ ¬fields.all fun m => names.contains m.1 then none
      else if ((fields.filter fun m => names.contains m.1).map (·.1)).Nodup then
        some (names.map fun name => fields.lookup name)
      else none := by
  rw [ofFields, fields?, mapM_members_iff.mpr (map_members_ofFields fields)]
  rfl

/-- A field is found whatever other fields a record has. -/
theorem fields?_among {before after : List (String × Json)} (hbefore : ∀ m ∈ before, m.1 ≠ name)
    (hafter : ∀ m ∈ after, m.1 ≠ name) (v : Json) :
    fields? [name] .skipped (ofFields (before ++ (name, v) :: after)) = some [some v] := by
  have hnone : ∀ {fields : List (String × Json)}, (∀ m ∈ fields, m.1 ≠ name) →
      fields.filter (fun m => [name].contains m.1) = [] := by
    intro fields hfields
    exact List.filter_eq_nil_iff.mpr fun m hm => by simpa using hfields m hm
  have hfilter : (before ++ (name, v) :: after).filter (fun m => [name].contains m.1) =
      [name].zip [v] := by
    rw [List.filter_append, List.filter_cons, hnone hbefore, hnone hafter]
    simp
  -- what is left of the record, when other keys are skipped, is the one field
  exact (fields?_eq_some_iff (List.nodup_singleton name)).mpr
    (hasFields_ofFields rfl (.of_eq hfilter))

end BranchPool.Json
