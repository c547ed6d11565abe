import TableAudit.Proofs.Steps
import TableAudit.Report.Writing

/-!
# Files after writing

A file that was written holds what was written to it, under every path to its place. Any other file
that can be read keeps its content: nothing is written where a directory lies, and a place on the
way to a file is one.
-/

namespace TableAudit.Files

section Places

variable {f f' : Files} {place q : Place} {c d : Content}

private theorem content?_put (f : Files) (place : Place) (c : Content) :
    (f.put place c).content? place = some c := by
  simp [content?, put]

theorem content?_put_of_ne (h : q ≠ place) : (f.put place c).content? q = f.content? q := by
  have hkept : (f.entries.filter (·.1 != place)).find? (·.1 == q) = f.entries.find? (·.1 == q) := by
    rw [List.find?_filter]
    congr 1
    funext e
    by_cases he : e.1 = q
    · simp [he, h]
    · simp [he]
  have hfirst : (place == q) = false := by simpa using Ne.symm h
  simp only [content?, put, List.find?_cons, hfirst, hkept]

theorem isBlocked_eq_false :
    f.isBlocked place = false ↔ ∀ n < place.length, f.content? (place.take n) = Option.none := by
  simp [isBlocked, isFile]

theorem isBlocked_put (h : f.isBlocked q = false) (hq : ∀ n < q.length, q.take n ≠ place) :
    (f.put place c).isBlocked q = false := by
  rw [isBlocked_eq_false] at h ⊢
  intro n hn
  rw [content?_put_of_ne (hq n hn)]
  exact h n hn

theorem take_ne_self {n : Nat} (h : n < place.length) : place.take n ≠ place := by
  intro he
  have := congrArg List.length he
  simp only [List.length_take] at this
  omega

theorem isDirectory_take (h : f.content? q = some d) {n : Nat} (hn : n < q.length) :
    f.isDirectory (q.take n) = true := by
  obtain ⟨e, he, -⟩ := Option.map_eq_some_iff.1 h
  have hfound := List.find?_some he
  have hplace : e.1 = q := eq_of_beq hfound
  have hway : f.entries.any (fun e => (q.take n).isPrefixOf e.1 && e.1 != q.take n) = true := by
    refine List.any_eq_true.2 ⟨e, List.mem_of_find?_eq_some he, ?_⟩
    simpa [hplace, List.take_prefix] using (take_ne_self hn).symm
  unfold isDirectory
  rw [hway, Bool.or_true]

end Places

section Paths

variable {f f' : Files} {path other : String} {c d : Content}

theorem read_eq_ok : f.read path = .ok c ↔
    path ≠ "" ∧ f.isBlocked (Path.resolve path) = false ∧
      f.content? (Path.resolve path) = some c ∧ Path.endsWithSlash path = false := by
  unfold read
  by_cases hempty : path = ""
  · simp [hempty]
  · cases hb : f.isBlocked (Path.resolve path) with
    | true => simp [hempty, hb]
    | false =>
      cases hc : f.content? (Path.resolve path) with
      | none => cases hd : f.isDirectory (Path.resolve path) <;> simp [hempty, hb, hc, hd]
      | some d => cases hs : Path.endsWithSlash path <;> simp [hempty, hb, hc]

theorem of_write_eq_ok (h : f.write path c = .ok f') :
    path ≠ "" ∧ f.isBlocked (Path.resolve path) = false ∧
      f.isDirectory (Path.resolve path) = false ∧ Path.endsWithSlash path = false ∧
      f' = f.put (Path.resolve path) c := by
  unfold write at h
  dsimp only at h
  split at h
  · cases h
  · next hempty =>
    split at h
    · cases h
    · next hblocked =>
      split at h
      · cases h
      · next hdir =>
        split at h
        · cases h
          rw [Bool.or_eq_true, not_or] at hdir
          exact ⟨by simpa using hempty, by simpa using hblocked, by simpa using hdir.1,
            by simpa using hdir.2, rfl⟩
        · cases h

private theorem read_write (h : f.write path c = .ok f') : f'.read path = .ok c := by
  obtain ⟨hempty, hblocked, -, hslash, rfl⟩ := of_write_eq_ok h
  have hfree := isBlocked_put (c := c) hblocked fun n hn => take_ne_self hn
  exact read_eq_ok.2 ⟨hempty, hfree, content?_put _ _ _, hslash⟩

private theorem read_write_of_ne (h : f.write path c = .ok f')
    (hne : Path.resolve other ≠ Path.resolve path) (hr : f.read other = .ok d) :
    f'.read other = .ok d := by
  obtain ⟨-, -, hdir, -, rfl⟩ := of_write_eq_ok h
  obtain ⟨hempty, hblocked, hcontent, hslash⟩ := read_eq_ok.1 hr
  have hway (n : Nat) (hn : n < (Path.resolve other).length) :
      (Path.resolve other).take n ≠ Path.resolve path := by
    intro he
    have htrue := isDirectory_take hcontent hn
    rw [he, hdir] at htrue
    cases htrue
  refine read_eq_ok.2 ⟨hempty, isBlocked_put hblocked hway, ?_, hslash⟩
  rw [content?_put_of_ne hne, hcontent]

theorem read_of_resolve_eq (h : f.read path = .ok c) (hp : Path.resolve other = Path.resolve path)
    (hempty : other ≠ "") (hslash : Path.endsWithSlash other = false) : f.read other = .ok c := by
  obtain ⟨-, hblocked, hcontent, -⟩ := read_eq_ok.1 h
  rw [← hp] at hblocked hcontent
  exact read_eq_ok.2 ⟨hempty, hblocked, hcontent, hslash⟩

theorem read_of_entries_eq (he : f'.entries = f.entries) (h : f.read path = .ok c) :
    f'.read path = .ok c := by
  have hcontent : f'.content? = f.content? := by
    funext place
    simp only [content?, he]
  obtain ⟨hempty, hblocked, hfound, hslash⟩ := read_eq_ok.1 h
  refine read_eq_ok.2 ⟨hempty, ?_, hcontent ▸ hfound, hslash⟩
  rw [isBlocked_eq_false] at hblocked ⊢
  rwa [hcontent]

private theorem entries_makeDirectory (h : f.makeDirectory path = .ok f') :
    f'.entries = f.entries := by
  unfold makeDirectory at h
  dsimp only at h
  split at h
  · cases h
    rfl
  · split at h
    · cases h
    · split at h
      · cases h
      · cases h
        rfl

/-- Making the directories on the way leaves all files alone. -/
theorem create_eq_ok (h : f.create path c = .ok f') :
    ∃ g : Files, g.entries = f.entries ∧ g.write path c = .ok f' := by
  unfold create at h
  dsimp only at h
  split at h
  · exact ⟨f, rfl, mapError_eq_ok.1 h⟩
  · obtain ⟨g, hg, hw⟩ := bind_eq_ok.1 h
    exact ⟨g, entries_makeDirectory (mapError_eq_ok.1 hg), mapError_eq_ok.1 hw⟩

theorem read_create (h : f.create path c = .ok f') : f'.read path = .ok c := by
  obtain ⟨g, -, hw⟩ := create_eq_ok h
  exact read_write hw

theorem read_create_of_ne (h : f.create path c = .ok f')
    (hne : Path.resolve other ≠ Path.resolve path) (hr : f.read other = .ok d) :
    f'.read other = .ok d := by
  obtain ⟨g, hg, hw⟩ := create_eq_ok h
  exact read_write_of_ne hw hne (read_of_entries_eq hg hr)

end Paths

end TableAudit.Files
