import Mathlib.Data.List.Nodup
import Signoff.Proofs.Database.Laws

namespace Signoff.Database

/-- No object shares its name with one that is there before it. -/
structure Addable (objects added : List SchemaObject) : Prop where
  apart : added.Pairwise fun earlier later => later.clashesWith earlier = false
  free : ∀ object ∈ added, ∀ existing ∈ objects, object.clashesWith existing = false

theorem addable_append {objects front back : List SchemaObject} :
    Addable objects (front ++ back) ↔
      Addable objects front ∧ Addable (objects ++ front) back := by
  constructor
  · intro haddable
    obtain ⟨hfront, hback, hacross⟩ := List.pairwise_append.mp haddable.apart
    refine ⟨⟨hfront, fun object hobject => haddable.free object (by simp [hobject])⟩, hback, ?_⟩
    intro object hobject existing hexisting
    rcases List.mem_append.mp hexisting with hold | hnew
    · exact haddable.free object (by simp [hobject]) existing hold
    · exact hacross existing hnew object hobject
  · rintro ⟨hfront, hback⟩
    constructor
    · apply List.pairwise_append.mpr
      refine ⟨hfront.apart, hback.apart, fun earlier hearlier later hlater => ?_⟩
      exact hback.free later hlater earlier (by simp [hearlier])
    · intro object hobject existing hexisting
      rcases List.mem_append.mp hobject with hobject | hobject
      · exact hfront.free object hobject existing hexisting
      · exact hback.free object hobject existing (by simp [hexisting])

theorem addable_singleton {objects : List SchemaObject} {object : SchemaObject} :
    Addable objects [object] ↔
      ∀ existing ∈ objects, object.clashesWith existing = false := by
  constructor
  · exact fun haddable => haddable.free object (by simp)
  · intro hfree
    exact ⟨List.pairwise_singleton _ _, by simpa using hfree⟩

theorem SchemaObject.clashesWith_self (object : SchemaObject) :
    object.clashesWith object = true := by
  simp [clashesWith, sameName]

theorem SchemaObject.clashesWith_comm (left right : SchemaObject) :
    left.clashesWith right = right.clashesWith left := by
  rw [clashesWith, clashesWith, sameName, sameName]
  congr 1
  · exact Bool.beq_comm
  · exact Bool.beq_comm

theorem Addable.filter_eq {objects added : List SchemaObject} (haddable : Addable objects added)
    {object : SchemaObject} (hmem : object ∈ added) :
    (objects ++ added).filter object.clashesWith = [object] := by
  obtain ⟨front, back, rfl⟩ := List.append_of_mem hmem
  obtain ⟨_, hback, hfront⟩ := List.pairwise_append.mp haddable.apart
  have hback := (List.pairwise_cons.mp hback).1
  have hobjects : objects.filter object.clashesWith = [] := by
    simpa using haddable.free object hmem
  have hbefore : front.filter object.clashesWith = [] := by
    simpa using fun earlier hearlier => hfront earlier hearlier object (by simp)
  have hafter : back.filter object.clashesWith = [] := by
    simpa [SchemaObject.clashesWith_comm object] using hback
  simp [hobjects, hbefore, hafter, SchemaObject.clashesWith_self]

theorem SchemaObject.create_eq_ok_iff {object : SchemaObject}
    {objects result : List SchemaObject} :
    object.create objects = .ok result ↔
      Addable objects [object] ∧ result = objects ++ [object] := by
  rw [addable_singleton, create]
  cases hfind : objects.find? object.clashesWith with
  | some existing =>
      simp only [reduceCtorEq, false_iff]
      rintro ⟨hfree, _⟩
      have hclash := List.find?_some hfind
      rw [hfree existing (List.mem_of_find?_eq_some hfind)] at hclash
      cases hclash
  | none =>
      have hfree : ∀ existing ∈ objects, object.clashesWith existing = false := by
        simpa using hfind
      rw [Except.ok.injEq]
      exact ⟨fun hresult => ⟨hfree, hresult.symm⟩, fun hall => hall.2.symm⟩

theorem foldlM_create_eq_ok_iff {step objects result : List SchemaObject} :
    step.foldlM (fun objects object => object.create objects) objects = .ok result ↔
      Addable objects step ∧ result = objects ++ step := by
  induction step generalizing objects with
  | nil =>
      have hnone : Addable objects [] := ⟨.nil, by simp⟩
      simp [pure, Except.pure, hnone, eq_comm]
  | cons object rest ih =>
      rw [List.foldlM_cons, bind_eq_ok_iff, ← List.singleton_append, addable_append]
      simp only [SchemaObject.create_eq_ok_iff, ih]
      constructor
      · rintro ⟨_, ⟨hobject, rfl⟩, hrest, rfl⟩
        exact ⟨⟨hobject, hrest⟩, by simp⟩
      · rintro ⟨⟨hobject, hrest⟩, rfl⟩
        exact ⟨_, ⟨hobject, rfl⟩, hrest, by simp⟩

theorem le_appliedVersion {database : Database} {applied : AppliedVersion}
    (hmem : applied ∈ database.versions) : applied.version ≤ database.appliedVersion := by
  unfold appliedVersion
  cases hversions : database.versions with
  | nil => simp [hversions] at hmem
  | cons first rest =>
      rw [hversions] at hmem
      obtain ⟨hfirst, hrest⟩ := Table.foldl_highest (rest.map (·.version)) first.version
      rcases List.mem_cons.mp hmem with rfl | hlater
      · exact hfirst
      · exact hrest _ (List.mem_map.mpr ⟨applied, hlater, rfl⟩)

theorem appliedVersion_concat {database : Database} {objects : List SchemaObject}
    {version appliedAt : Int64} (hlarger : database.appliedVersion < version) :
    appliedVersion { database with
      objects
      versions := database.versions ++ [⟨version, appliedAt⟩] } = version := by
  unfold appliedVersion at hlarger ⊢
  cases hversions : database.versions with
  | nil => rfl
  | cons first rest =>
      simp only [hversions, List.map_cons] at hlarger
      simp only [List.cons_append, List.map_cons, List.map_append, List.foldl_append,
        List.map_nil, List.foldl_cons, List.foldl_nil, if_pos hlarger]

theorem ofNat_lt {version larger : Nat} (hroom : larger < 0x8000000000000000)
    (hlt : version < larger) : Int64.ofNat version < Int64.ofNat larger := by
  rw [Int64.lt_iff_toInt_lt, Int64.toInt_ofNat_of_lt (by omega), Int64.toInt_ofNat_of_lt hroom]
  omega

def recorded (clock : Clock) (version count : Nat) : List AppliedVersion :=
  (List.range' (version + 1) count).map fun number => ⟨Int64.ofNat number, clock.now⟩

theorem filter_recorded (clock : Clock) {version number count : Nat} (hlow : version < number)
    (hhigh : number ≤ version + count) (hroom : version + count < 0x8000000000000000) :
    (recorded clock version count).filter (·.version = Int64.ofNat number) =
      [⟨Int64.ofNat number, clock.now⟩] := by
  have hmem : number ∈ List.range' (version + 1) count := by
    rw [List.mem_range'_1]
    omega
  have hsame : (List.range' (version + 1) count).filter
        (fun other => Int64.ofNat other = Int64.ofNat number) =
      (List.range' (version + 1) count).filter (· == number) := by
    apply List.filter_congr
    intro other hother
    rw [List.mem_range'_1] at hother
    rw [Bool.eq_iff_iff, decide_eq_true_eq, beq_iff_eq, ← Int64.toInt_inj,
      Int64.toInt_ofNat_of_lt (by omega), Int64.toInt_ofNat_of_lt (by omega)]
    omega
  rw [recorded, List.filter_map]
  change ((List.range' (version + 1) count).filter
    (fun other => Int64.ofNat other = Int64.ofNat number)).map _ = _
  rw [hsame, List.filter_beq, List.count_eq_one_of_mem List.nodup_range' hmem]
  rfl

def withSteps (clock : Clock) (version : Nat) (steps : List (List SchemaObject))
    (database : Database) : Database :=
  { database with
    objects := database.objects ++ steps.flatten
    versions := database.versions ++ recorded clock version steps.length }

theorem withSteps_nil (clock : Clock) (version : Nat) (database : Database) :
    withSteps clock version [] database = database := by
  simp [withSteps, recorded]

theorem withSteps_cons (clock : Clock) (version : Nat) (step : List SchemaObject)
    (rest : List (List SchemaObject)) (database : Database) :
    withSteps clock version (step :: rest) database =
      withSteps clock (version + 1) rest { database with
        objects := database.objects ++ step
        versions := database.versions ++ [⟨Int64.ofNat (version + 1), clock.now⟩] } := by
  simp [withSteps, recorded, List.range'_succ]

theorem applySteps_eq_ok_iff {clock : Clock} {version : Nat} {steps : List (List SchemaObject)}
    {database after : Database} :
    applySteps clock version steps database = .ok after ↔
      Addable database.objects steps.flatten ∧ after = withSteps clock version steps database := by
  induction steps generalizing version database with
  | nil =>
      have hnone : Addable database.objects [] := ⟨.nil, by simp⟩
      simp [applySteps, withSteps_nil, hnone, eq_comm]
  | cons step rest ih =>
      rw [applySteps, bind_eq_ok_iff, List.flatten_cons, addable_append, withSteps_cons]
      simp only [applyStep, bind_eq_ok_iff, foldlM_create_eq_ok_iff, ih]
      constructor
      · rintro ⟨_, ⟨_, ⟨hstep, rfl⟩, hnext⟩, hrest, rfl⟩
        cases hnext
        exact ⟨⟨hstep, hrest⟩, rfl⟩
      · rintro ⟨⟨hstep, hrest⟩, rfl⟩
        exact ⟨_, ⟨_, ⟨hstep, rfl⟩, rfl⟩, hrest, rfl⟩

theorem appliedVersion_withSteps (clock : Clock) {version : Nat}
    {steps : List (List SchemaObject)} {database : Database}
    (hversion : database.appliedVersion = Int64.ofNat version)
    (hroom : version + steps.length < 0x8000000000000000) :
    (withSteps clock version steps database).appliedVersion =
      Int64.ofNat (version + steps.length) := by
  induction steps generalizing version database with
  | nil => rw [withSteps_nil, hversion, List.length_nil, Nat.add_zero]
  | cons step rest ih =>
      rw [List.length_cons] at hroom
      have hlarger : database.appliedVersion < Int64.ofNat (version + 1) :=
        hversion ▸ ofNat_lt (by omega) (Nat.lt_succ_self version)
      rw [withSteps_cons, ih (appliedVersion_concat hlarger) (by omega), List.length_cons]
      congr 1
      omega

end Signoff.Database
