import StageChain.Proofs.Simulation

/-!
# What a run leaves alone

What is stored apart from the leases of a run and from the sink that it overwrites makes no
difference to the run, and the run makes none to it. Two runs on storages in memory of which one
holds more, but nothing at or below those locations, come to the same, and what was more before is
more after.

* `MemoryStorage.Widens`: a storage that holds extra locations; adding, taking out and clearing keep
  that, and the answers too, apart from the extra locations.
* `Substrate.Scripted`: a substrate that replies by a script and adds locations.
* `run_frame`: **the frame rule.**
-/

namespace StageChain

variable {extra : List String} {m m' : MemoryStorage} {location : String}

namespace MemoryStorage

/-- **A storage that holds extra locations** besides those of another one, and is like it in the
rest. -/
structure Widens (extra : List String) (m m' : MemoryStorage) : Prop where
  locations : ∀ l, l ∈ m'.locations ↔ l ∈ m.locations ∨ l ∈ extra
  deleted : m'.deleted = m.deleted
  containsFault : m'.containsFault = m.containsFault
  eraseFault : m'.eraseFault = m.eraseFault

namespace Widens

/-- Extra locations that are apart from a location do not make it held. -/
theorem holds_eq (h : Widens extra m m') (hapart : ∀ l ∈ extra, isApart l location = true) :
    m'.holds location = m.holds location := by
  rw [Bool.eq_iff_iff, holds_iff, holds_iff]
  constructor
  · rintro ⟨l, hl, hat⟩
    rcases (h.locations l).1 hl with hl | hl
    · exact ⟨l, hl, hat⟩
    · rw [hapart l hl] at hat
      exact absurd hat (by simp)
  · rintro ⟨l, hl, hat⟩
    exact ⟨l, (h.locations l).2 (.inl hl), hat⟩

theorem add (h : Widens extra m m') (location : String) :
    Widens extra (m.add location) (m'.add location) := by
  obtain ⟨hd, hc, he⟩ := @frame_add m location
  obtain ⟨hd', hc', he'⟩ := @frame_add m' location
  refine ⟨fun l => ?_, ?_, ?_, ?_⟩
  · rw [mem_add, mem_add, h.locations, or_right_comm]
  · rw [hd, hd', h.deleted]
  · rw [hc, hc', h.containsFault]
  · rw [he, he', h.eraseFault]

theorem foldl_add (h : Widens extra m m') (locations : List String) :
    Widens extra (locations.foldl MemoryStorage.add m) (locations.foldl MemoryStorage.add m') := by
  induction locations generalizing m m' with
  | nil => exact h
  | cons location rest ih => exact ih (h.add location)

/-- Taking a location out leaves the extra locations that are apart from it. -/
theorem remove (h : Widens extra m m') (hapart : ∀ l ∈ extra, isApart l location = true) :
    Widens extra (m.remove location) (m'.remove location) := by
  refine ⟨fun l => ?_, ?_, h.containsFault, h.eraseFault⟩
  · rw [mem_remove, mem_remove, h.locations, or_and_right]
    exact or_congr_right ⟨fun hl => hl.1, fun hl => ⟨hl, hapart l hl⟩⟩
  · exact congrArg (· ++ [location]) h.deleted

/-- Storages without faults, of which one holds extra locations. -/
theorem ofList (locations extra : List String) :
    Widens extra (.ofList locations) (.ofList (locations ++ extra)) :=
  ⟨fun l => by simp [MemoryStorage.ofList], rfl, rfl, rfl⟩

end Widens

end MemoryStorage

/-- **Extra locations are not noticed** where a location apart from them is cleared. -/
theorem Storage.Respects.widens (hapart : ∀ l ∈ extra, isApart l location = true) :
    Storage.Respects (MemoryStorage.Widens extra) location where
  contains {m m'} h := by
    simp only [Storage.contains]
    rw [h.containsFault, h.holds_eq hapart]
  erase {m m'} h := by
    simp only [Storage.erase]
    rw [h.eraseFault]
    cases m.eraseFault location with
    | some f => exact ⟨rfl, h⟩
    | none => exact ⟨rfl, h.remove hapart⟩

/-- **A substrate that goes by a script**: its replies do not look at the storage, and all that it
does to that is that it adds locations. -/
def Substrate.Scripted (substrate : Substrate MemoryStorage) : Prop :=
  ∃ (reply : Stage → Reply) (adds : Stage → List String), ∀ stage m,
    substrate.submit stage m = (reply stage, (adds stage).foldl MemoryStorage.add m)

/-- A script does not notice extra locations. -/
theorem Substrate.Respects.widens {substrate : Substrate MemoryStorage} (h : substrate.Scripted) :
    substrate.Respects (MemoryStorage.Widens extra) := by
  obtain ⟨reply, adds, h⟩ := h
  intro stage m m' hm
  rw [h, h]
  exact ⟨rfl, hm.foldl_add (adds stage)⟩

namespace Draft

/-- **The frame rule.** A run on a storage that holds extra locations, of which none lies at or
below a lease of the run or the sink that it overwrites, comes to the same as the run without them:
the same report or failure, the same records and notices, the same stages handed over and the same
locations deleted. Each stage finds the extra locations, and so they are left in the end. -/
theorem run_frame (env : Environment MemoryStorage) (d : Draft) (s t : Session MemoryStorage)
    (hscript : ∀ substrate ∈ env.substrate, substrate.Scripted)
    (hapart : ∀ l ∈ extra, ∀ location ∈ d.touched env s, isApart l location = true)
    (h : s.Alike (MemoryStorage.Widens extra) t) :
    (d.run env t).1 = (d.run env s).1 ∧
      (d.run env s).2.Alike (MemoryStorage.Widens extra) (d.run env t).2 := by
  have hsubstrate : ∀ substrate ∈ env.substrate,
      substrate.Respects (MemoryStorage.Widens extra) := fun substrate hsubstrate =>
    .widens (hscript substrate hsubstrate)
  have hlocations : ∀ location ∈ d.touched env s,
      Storage.Respects (MemoryStorage.Widens extra) location := fun location hlocation =>
    .widens fun l hl => hapart l hl location hlocation
  obtain ⟨hresult, hsession⟩ := agree_run hsubstrate hlocations h
  exact ⟨hresult, hsession⟩

/-- The sample is refused at its second stage, and what lies beside the leases and the sink stays,
however alike the names look. -/
theorem run_frame_sample :
    let env := { Environment.counting MemoryStorage with substrate := some (Chain.refusing 1) }
    let extra := ["in/part", "outlet", "tmp-00"]
    let s : Session MemoryStorage := .start (.ofList ["in", "out/old"])
    let t : Session MemoryStorage := .start (.ofList (["in", "out/old"] ++ extra))
    (∀ substrate ∈ env.substrate, substrate.Scripted) ∧
      (∀ l ∈ extra, ∀ location ∈ sample.touched env s, isApart l location = true) ∧
      s.Alike (MemoryStorage.Widens extra) t ∧
      (sample.run env t).1 = (sample.run env s).1 ∧
      (sample.run env s).2.Alike (MemoryStorage.Widens extra) (sample.run env t).2 ∧
      sample.touched env s = ["tmp-0", "tmp-1", "out"] := by
  intro env extra s t
  have hscript : ∀ substrate ∈ env.substrate, substrate.Scripted := by
    rintro _ ⟨⟩
    exact ⟨fun stage => .answered (stage.index != 1), fun stage => [stage.outputLocation],
      fun _ _ => rfl⟩
  have htouched : sample.touched env s = ["tmp-0", "tmp-1", "out"] := by decide +kernel
  have hapart : ∀ l ∈ extra, ∀ location ∈ sample.touched env s, isApart l location = true := by
    rw [htouched]
    decide +kernel
  have halike : s.Alike (MemoryStorage.Widens extra) t :=
    .start (.ofList ["in", "out/old"] extra)
  obtain ⟨hreport, hsession⟩ := run_frame env sample s t hscript hapart halike
  exact ⟨hscript, hapart, halike, hreport, hsession, htouched⟩

end Draft

end StageChain
