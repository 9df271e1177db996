import DatasetSql.Proofs.Search
import DatasetSql.Proofs.Toml.Quoted
import DatasetSql.Toml.Reader

/-!
# Keys are read back

A key is written without quotes where it can be, and otherwise between quotes. A path of keys is read
back with all of its parts but the last apart from the last one.
-/

namespace DatasetSql.Toml

/-- Whether a text may stand behind a key: it does not start with a part of one. -/
def EndsKey (rest : List Char) : Prop := ∀ c, rest.head? = some c → isKeyChar c = false

/-- A bare key is read up to its end. -/
theorem keyPart?_bare {cs rest : List Char} (hne : cs ≠ []) (hcs : ∀ c ∈ cs, isKeyChar c = true)
    (hrest : EndsKey rest) : keyPart? (cs ++ rest) = some (String.ofList cs, rest) := by
  have hspan := Text.span_append hcs hrest
  have hempty : cs.isEmpty = false := by simpa using hne
  have hquote {q : Char} (hq : isKeyChar q = false) : (cs ++ rest).head? ≠ some q := by
    obtain ⟨c, cs', rfl⟩ := List.exists_cons_of_ne_nil hne
    intro heq
    have hc : c = q := Option.some.inj heq
    rw [← hc, hcs c List.mem_cons_self] at hq
    exact nomatch hq
  -- quotes are not characters of a bare key
  unfold keyPart?
  split
  · next heq =>
    rw [heq] at hquote
    exact absurd rfl (hquote (by decide))
  · next heq =>
    rw [heq] at hquote
    exact absurd rfl (hquote (by decide))
  · rw [hspan]
    simp [hempty]

/-- A quoted key is read back. -/
theorem keyPart?_basicText (cs rest : List Char) :
    keyPart? ((basicText cs).toList ++ rest) = some (String.ofList cs, rest) := by
  have htext : (basicText cs).toList ++ rest = '"' :: (basicBody false 0 0 cs ++ '"' :: rest) := by
    simp [basicText]
  rw [htext, keyPart?, basicText?_basicBody]
  rfl

/-- A key between single quotes is read back. -/
theorem keyPart?_literal {cs : List Char} (h : ∀ c ∈ cs, c ≠ '\'' ∧ isPlain c = true)
    (rest : List Char) :
    keyPart? (("'" ++ String.ofList cs ++ "'").toList ++ rest) = some (String.ofList cs, rest) := by
  have htext : ("'" ++ String.ofList cs ++ "'").toList ++ rest = '\'' :: (cs ++ '\'' :: rest) := by
    simp
  rw [htext, keyPart?, literalText?_append h]
  rfl

/-- A key is read back, whatever its quotes. -/
theorem keyPart?_keyText (key : String) {rest : List Char} (hrest : EndsKey rest) :
    keyPart? ((keyText key).toList ++ rest) = some (key, rest) := by
  have hof : key = String.ofList key.toList := String.ofList_toList.symm
  generalize hcs : key.toList = cs at hof
  unfold keyText
  simp only [hcs]
  split_ifs with h1 h2 h3
  · simp only [Bool.and_eq_true, Bool.not_eq_true', List.all_eq_true] at h1
    rw [hcs, hof]
    exact keyPart?_bare (by simpa using h1.1) h1.2 hrest
  · rw [hof]
    exact keyPart?_basicText cs rest
  · simp only [Bool.and_eq_true, Bool.not_eq_true', Bool.or_eq_false_iff, beq_iff_eq] at h3
    obtain ⟨⟨hcontrol, hbreak⟩, hquotes⟩ := h3
    rw [hof]
    exact keyPart?_literal (plain_of_traits hcontrol hbreak hquotes) rest
  · rw [hof]
    exact keyPart?_basicText cs rest

/-! ## Paths -/

/-- Whether a key may start with a character. -/
def StartsKey (c : Char) : Prop := isKeyChar c = true ∨ c = '"' ∨ c = '\''

/-- Every key starts with what a key may start with. -/
theorem keyText_head (key : String) : ∃ c cs, (keyText key).toList = c :: cs ∧ StartsKey c := by
  have hbasic : ∃ c cs, (basicText key.toList).toList = c :: cs ∧ StartsKey c :=
    ⟨'"', _, by simp [basicText]; rfl, .inr (.inl rfl)⟩
  unfold keyText
  extract_lets
  split_ifs with h1 h2 h3
  · simp only [Bool.and_eq_true, Bool.not_eq_true', List.all_eq_true] at h1
    obtain ⟨hne, hall⟩ := h1
    obtain ⟨c, cs, heq⟩ := List.exists_cons_of_ne_nil (by simpa using hne)
    exact ⟨c, cs, heq, .inl (hall c (by rw [heq]; exact List.mem_cons_self))⟩
  · exact hbasic
  · exact ⟨'\'', _, by simp; rfl, .inr (.inr rfl)⟩
  · exact hbasic

theorem not_startsKey : ¬ StartsKey ' ' ∧ ¬ StartsKey '\t' ∧ ¬ StartsKey '\n' ∧ ¬ StartsKey '\r' ∧
    ¬ StartsKey '#' ∧ ¬ StartsKey '[' ∧ ¬ StartsKey ']' ∧ ¬ StartsKey '\x7d' := by
  simp [StartsKey, isKeyChar]

/-- Nothing is skipped before a character that is no blank. -/
theorem skipBlanks_of_head {cs : List Char} (h : cs.head? ≠ some ' ' ∧ cs.head? ≠ some '\t') :
    skipBlanks cs = cs := by
  unfold skipBlanks
  cases cs with
  | nil => rfl
  | cons c cs => exact List.dropWhile_cons_of_neg (by simpa using h)

theorem skipBlanks_keyText (key : String) (rest : List Char) :
    skipBlanks ((keyText key).toList ++ rest) = (keyText key).toList ++ rest := by
  obtain ⟨c, cs, heq, hc⟩ := keyText_head key
  rw [heq]
  apply skipBlanks_of_head
  constructor
  · rintro ⟨⟩
    exact not_startsKey.1 hc
  · rintro ⟨⟩
    exact not_startsKey.2.1 hc

/-- A path of keys is read back; the dots in it show that it goes on. -/
theorem keyFrom?_pathText (path : List String) (key : String) {n : Nat} (hn : path.length < n)
    {rest : List Char} (hrest : EndsKey rest) (hdot : (skipBlanks rest).head? ≠ some '.') :
    keyFrom? n ((pathText (path ++ [key])).toList ++ rest) =
      some (path, key, skipBlanks rest) := by
  induction path generalizing n with
  | nil =>
    obtain ⟨n, rfl⟩ := Nat.exists_eq_succ_of_ne_zero (Nat.ne_of_gt hn)
    have htext : (pathText ([] ++ [key])).toList = (keyText key).toList := by
      simp [pathText, Text.joined]
    rw [htext, keyFrom?, skipBlanks_keyText, keyPart?_keyText key hrest, Option.bind_eq_bind,
      Option.bind_some]
    dsimp only
    -- no dot follows the last part
    split
    · next heq => simp [heq] at hdot
    · rfl
  | cons k path ih =>
    obtain ⟨n, rfl⟩ := Nat.exists_eq_succ_of_ne_zero (Nat.ne_of_gt (Nat.zero_lt_of_lt hn))
    have hnext := @ih n (Nat.lt_of_succ_lt_succ hn)
    have htext : (pathText (k :: path ++ [key])).toList ++ rest =
        (keyText k).toList ++ '.' :: ((pathText (path ++ [key])).toList ++ rest) := by
      cases path <;> simp [pathText, Text.joined]
    have hends : EndsKey ('.' :: ((pathText (path ++ [key])).toList ++ rest)) := by
      rintro c ⟨⟩
      rfl
    have hblank : skipBlanks ('.' :: ((pathText (path ++ [key])).toList ++ rest)) =
        '.' :: ((pathText (path ++ [key])).toList ++ rest) := rfl
    rw [htext, keyFrom?, skipBlanks_keyText, keyPart?_keyText k hends, Option.bind_eq_bind,
      Option.bind_some]
    dsimp only
    rw [hblank]
    simp only [hnext]
    rfl

end DatasetSql.Toml
