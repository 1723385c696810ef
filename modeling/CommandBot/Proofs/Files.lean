import CommandBot.Files
import CommandBot.Proofs.Except

namespace CommandBot.Files

/-- The place that a path leads to, if a file stands there or can be made there. A path leads to one
place, whatever stands there. -/
def target? (path : String) : Option String := (places path).getLast?

/-- Where the content of a file goes. -/
def Spot.place? : Spot → Option String
  | .directory => none
  | .file place _ | .free place => some place

/-- A name that is not a dot or two of them goes one place further. -/
theorem placesFrom_cons {here names : List String} {name : String} (hdot : name ≠ ".")
    (hdots : name ≠ "..") :
    placesFrom here (name :: names) =
      place (name :: here).reverse :: placesFrom (name :: here) names :=
  placesFrom.eq_4 here name names hdot hdots

/-- A walk that ends at a file or at a free place ends at the last place that it comes past. -/
theorem walk_place? {files : Files} {here names : List String} {spot : Spot} {place : String}
    (h : files.walk here names = .ok spot) (hplace : spot.place? = some place) :
    (placesFrom here names).getLast? = some place := by
  fun_induction walk files here names with
  | case1 here =>
    cases h
    cases hplace
  | case2 here names ih => exact ih h
  | case3 here names ih => exact ih h
  | case4 | case7 | case9 => cases h
  | case5 here name names hdot hdots passed _ _ ih =>
    rw [placesFrom_cons hdot hdots, List.getLast?_cons, ih h]
    rfl
  | case6 here name names hdot hdots reached _ content _ hlast
  | case8 here name names hdot hdots reached _ _ hlast =>
    obtain rfl := List.isEmpty_iff.1 hlast
    cases h
    rw [placesFrom_cons hdot hdots]
    exact hplace

/-- A write changes nothing but what its path leads to. -/
theorem get?_write {files after : Files} {path place : String} {content : ByteArray}
    (h : files.write path content = .ok after) (hother : target? path ≠ some place) :
    after.entries.get? place = files.entries.get? place := by
  unfold write at h
  obtain ⟨parsed, hparse, h⟩ := bind_eq_ok_iff.1 h
  have hput (spot : Spot) (reached : String) (hlocate : files.locate parsed = .ok spot)
      (hspot : spot.place? = some reached) :
      (files.put reached (.file content)).entries.get? place = files.entries.get? place := by
    have htarget : target? path = some reached := by
      unfold target? places
      rw [hparse]
      exact walk_place? hlocate hspot
    have hne : reached ≠ place := by
      rintro rfl
      exact hother htarget
    exact (Table.get?_insert ..).trans (if_neg hne)
  split at h
  · obtain ⟨spot, _, h⟩ := bind_eq_ok_iff.1 h
    cases spot <;> cases h
  · obtain ⟨spot, hlocate, h⟩ := bind_eq_ok_iff.1 h
    cases spot with
    | directory => cases h
    | file reached _ | free reached =>
      cases h
      exact hput _ reached hlocate rfl

end CommandBot.Files
