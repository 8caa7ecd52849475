import Mathlib.Data.List.Basic

/-! The route check of the upgrade listener. `parseDeviceId` keeps the non-empty pieces of
the pathname between slashes and returns the second when the first is `terminal`; so it
accepts any run of slashes around the two pieces and ignores what follows them. -/

namespace TerminalProxy.Server

/-- `pathname.split("/").filter(Boolean)`, on the characters of the pathname. -/
def segments (path : List Char) : List (List Char) :=
  (path.splitOn '/').filter (fun part => !part.isEmpty)

/-- Parse the path `/terminal/<deviceId>` and return the device ID or null:
`parts.length >= 2 && parts[0] === "terminal"` gives `parts[1]`. -/
def parseDeviceId (pathname : String) : Option String :=
  match segments pathname.toList with
  | first :: deviceId :: _ => if first = "terminal".toList then some ⟨deviceId⟩ else none
  | _ => none

def Slashes (chars : List Char) : Prop := ∀ c ∈ chars, c = '/'

theorem splitOn_slash_cons (rest : List Char) :
    ('/' :: rest).splitOn '/' = [] :: rest.splitOn '/' := by
  simp [List.splitOn, List.splitOnP_cons]

theorem splitOn_append_slash {word : List Char} (plain : '/' ∉ word) (rest : List Char) :
    (word ++ '/' :: rest).splitOn '/' = word :: rest.splitOn '/' := by
  induction word with
  | nil => exact splitOn_slash_cons rest
  | cons c word ih =>
    have notSlash : c ≠ '/' := fun same => plain (same ▸ List.mem_cons_self _ _)
    have tailPlain : '/' ∉ word := fun member => plain (List.mem_cons_of_mem _ member)
    simp only [List.splitOn] at ih ⊢
    simp [List.splitOnP_cons, notSlash, ih tailPlain]

@[simp] theorem segments_nil : segments [] = [] := by
  simp [segments, List.splitOn]

@[simp] theorem segments_slash_cons (rest : List Char) :
    segments ('/' :: rest) = segments rest := by
  simp [segments, splitOn_slash_cons]

theorem segments_slashes_append {lead : List Char} (slashes : Slashes lead) (rest : List Char) :
    segments (lead ++ rest) = segments rest := by
  induction lead with
  | nil => rfl
  | cons c lead ih =>
    rw [slashes c (List.mem_cons_self _ _), List.cons_append, segments_slash_cons]
    exact ih fun d member => slashes d (List.mem_cons_of_mem _ member)

theorem segments_word_append {word rest : List Char} (nonempty : word ≠ [])
    (plain : '/' ∉ word) (boundary : rest = [] ∨ rest.head? = some '/') :
    segments (word ++ rest) = word :: segments rest := by
  rcases boundary with rfl | boundary
  · have single : word.splitOn '/' = [word] :=
      List.splitOnP_eq_single _ _ fun c member same => plain (beq_iff_eq.mp same ▸ member)
    simp [segments, single, nonempty]
  · obtain ⟨after, rfl⟩ := List.head?_eq_some_iff.mp boundary
    have split : segments (word ++ '/' :: after) = word :: segments after := by
      simp [segments, splitOn_append_slash plain, nonempty]
    rw [split, segments_slash_cons]

theorem dropWhile_boundary : ∀ path : List Char,
    path.dropWhile (· != '/') = [] ∨ (path.dropWhile (· != '/')).head? = some '/'
  | [] => .inl rfl
  | c :: rest => by
    by_cases slash : c = '/'
    · right; simp [List.dropWhile_cons, slash]
    · simpa [List.dropWhile_cons, slash] using dropWhile_boundary rest

theorem segments_eq_cons {path word : List Char} {more : List (List Char)}
    (split : segments path = word :: more) :
    word ≠ [] ∧ '/' ∉ word ∧ ∃ lead tail, Slashes lead ∧ (tail = [] ∨ tail.head? = some '/') ∧
      path = lead ++ word ++ tail ∧ segments tail = more := by
  induction path with
  | nil => simp at split
  | cons c path ih =>
    by_cases slash : c = '/'
    · subst slash
      obtain ⟨nonempty, plain, lead, tail, slashes, boundary, rfl, rest⟩ :=
        ih (by simpa using split)
      refine ⟨nonempty, plain, '/' :: lead, tail, ?_, boundary, rfl, rest⟩
      rintro d (_ | ⟨_, member⟩)
      · rfl
      · exact slashes d member
    · obtain ⟨first, tail, whole, nonempty, plain, boundary⟩ : ∃ first tail : List Char,
          first ++ tail = c :: path ∧ first ≠ [] ∧ '/' ∉ first ∧
          (tail = [] ∨ tail.head? = some '/') :=
        ⟨_, _, List.takeWhile_append_dropWhile _ _, by simp [List.takeWhile_cons, slash],
          fun member => by simpa using List.mem_takeWhile_imp member, dropWhile_boundary _⟩
      rw [← whole, segments_word_append nonempty plain boundary] at split
      obtain ⟨rfl, rfl⟩ := List.cons.inj split
      exact ⟨nonempty, plain, [], tail, nofun, boundary, whole.symm, rfl⟩

theorem parseDeviceId_eq_some_iff_segments (pathname deviceId : String) :
    parseDeviceId pathname = some deviceId ↔
      ∃ more, segments pathname.toList = "terminal".toList :: deviceId.toList :: more := by
  unfold parseDeviceId
  split
  · rename_i first id more split
    rw [split]
    constructor
    · intro found
      split at found
      · rename_i terminal
        cases Option.some.inj found
        exact ⟨more, by rw [terminal]; rfl⟩
      · cases found
    · rintro ⟨more', same⟩
      simp only [List.cons.injEq] at same
      rw [if_pos same.1, same.2.1]
      rfl
  · rename_i short
    simp only [reduceCtorEq, false_iff, not_exists]
    intro more split
    exact short _ _ _ split

theorem head?_slashes {gap : List Char} (nonempty : gap ≠ []) (slashes : Slashes gap) :
    gap.head? = some '/' := by
  cases gap with
  | nil => exact absurd rfl nonempty
  | cons c gap => simp [slashes c (List.mem_cons_self _ _)]

theorem parseDeviceId_eq_some_iff (pathname deviceId : String) :
    parseDeviceId pathname = some deviceId ↔
      deviceId ≠ "" ∧ '/' ∉ deviceId.toList ∧
      ∃ lead gap rest : List Char, Slashes lead ∧ gap ≠ [] ∧ Slashes gap ∧
        (rest = [] ∨ rest.head? = some '/') ∧
        pathname.toList = lead ++ "terminal".toList ++ gap ++ deviceId.toList ++ rest := by
  rw [parseDeviceId_eq_some_iff_segments]
  constructor
  · rintro ⟨more, split⟩
    obtain ⟨-, -, lead, tail, slashes, boundary, whole, rest⟩ := segments_eq_cons split
    obtain ⟨after, rfl⟩ : ∃ after, tail = '/' :: after := by
      rcases boundary with rfl | boundary
      · simp at rest
      · exact List.head?_eq_some_iff.mp boundary
    obtain ⟨nonempty, plain, gap, final, gapSlashes, finalBoundary, rfl, -⟩ :=
      segments_eq_cons (by simpa using rest)
    refine ⟨fun empty => nonempty (by simp [empty]), plain, lead, '/' :: gap, final, slashes,
      nofun, ?_, finalBoundary, by rw [whole]; simp⟩
    rintro c (_ | ⟨_, member⟩)
    · rfl
    · exact gapSlashes c member
  · rintro ⟨nonempty, plain, lead, gap, rest, slashes, gapNonempty, gapSlashes, boundary, whole⟩
    have idNonempty : deviceId.toList ≠ [] := fun empty => nonempty (String.ext empty)
    refine ⟨segments rest, ?_⟩
    rw [whole, List.append_assoc, List.append_assoc, List.append_assoc,
      segments_slashes_append slashes, segments_word_append (by decide) (by decide)
        (.inr (by simp [head?_slashes gapNonempty gapSlashes])),
      segments_slashes_append gapSlashes, segments_word_append idNonempty plain boundary]

end TerminalProxy.Server
