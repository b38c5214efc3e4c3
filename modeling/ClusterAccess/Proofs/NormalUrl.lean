import ClusterAccess.Proofs.Explicit
import Mathlib.Data.List.DropRight

/-!
# The normal form of master URLs

A URL is normal when it starts with a scheme and ends with one slash. Dropping the slashes at its end
and putting a scheme before it work on the same text. As long as something other than slashes stands
after the scheme, the two do not meet: the result is normal, and its own normal form. If nothing does,
the slashes that are dropped are those of the scheme.
-/
namespace ClusterAccess

namespace MasterUrl

/-- A spelling of one of the two schemes, in any case of its letters. -/
def IsScheme (s : List Char) : Prop :=
  s.map Char.toLower = httpPrefix.toList ∨ s.map Char.toLower = httpsPrefix.toList

/-- How many characters of a URL are its scheme. -/
def schemeLength (url : String) : Nat :=
  if Text.startsWith httpPrefix (Text.asciiLower url) then httpPrefix.length
  else if Text.startsWith httpsPrefix (Text.asciiLower url) then httpsPrefix.length
  else 0

/-- What stands after the scheme, the whole URL if it has none. -/
def afterScheme (url : String) : List Char := url.toList.drop (schemeLength url)

/-- Something other than slashes stands after the scheme. -/
def namesHost (url : String) : Bool := (afterScheme url).any (· != '/')

/-- The last character is a slash, and the one before it is not. -/
def EndsInOneSlash (url : String) : Prop :=
  ∃ before : List Char, url.toList = before ++ ['/'] ∧ before.getLast? ≠ some '/'

/-! ## Slashes at the end -/

theorem dropSlashes_eq_rdropWhile (cs : List Char) : dropSlashes cs = cs.rdropWhile (· == '/') := rfl

theorem dropSlashes_eq_nil_iff {cs : List Char} : dropSlashes cs = [] ↔ cs.any (· != '/') = false := by
  rw [dropSlashes_eq_rdropWhile, List.rdropWhile_eq_nil_iff, List.any_eq_false]
  simp

/-- Slashes are dropped from the second part only, unless it holds nothing else. -/
theorem dropSlashes_append (first second : List Char) :
    dropSlashes (first ++ second) =
      if second.any (· != '/') then first ++ dropSlashes second else dropSlashes first := by
  have hr : second.reverse.dropWhile (· == '/') = (dropSlashes second).reverse := by
    rw [dropSlashes, List.reverse_reverse]
  rw [dropSlashes, List.reverse_append, List.dropWhile_append, hr]
  cases h : second.any (· != '/') with
  | false =>
    have hn : dropSlashes second = [] := dropSlashes_eq_nil_iff.mpr h
    simp only [hn, List.reverse_nil, List.isEmpty_nil, Bool.false_eq_true, if_true, if_false]
    rfl
  | true =>
    have hn : dropSlashes second ≠ [] := by
      rw [ne_eq, dropSlashes_eq_nil_iff, h]
      decide
    simp [hn]

theorem dropSlashes_dropSlashes_slash (cs : List Char) :
    dropSlashes (dropSlashes cs ++ ['/']) = dropSlashes cs := by
  rw [dropSlashes_append, if_neg (by decide), dropSlashes_eq_rdropWhile, dropSlashes_eq_rdropWhile,
    List.rdropWhile_idempotent]

theorem getLast?_dropSlashes (cs : List Char) : (dropSlashes cs).getLast? ≠ some '/' := by
  intro h
  have hne : cs.rdropWhile (· == '/') ≠ [] := by
    intro hn
    rw [dropSlashes_eq_rdropWhile, hn] at h
    cases h
  have hl := List.rdropWhile_last_not (· == '/') cs hne
  rw [dropSlashes_eq_rdropWhile, List.getLast?_eq_some_getLast hne] at h
  exact hl (beq_iff_eq.mpr (Option.some.inj h))

@[simp] theorem toList_ensureTrailingSlash (url : String) :
    (ensureTrailingSlash url).toList = dropSlashes url.toList ++ ['/'] := by
  simp [ensureTrailingSlash]

theorem endsInOneSlash_ensureTrailingSlash (url : String) : EndsInOneSlash (ensureTrailingSlash url) :=
  ⟨dropSlashes url.toList, toList_ensureTrailingSlash url, getLast?_dropSlashes url.toList⟩

theorem ensureTrailingSlash_idem (url : String) :
    ensureTrailingSlash (ensureTrailingSlash url) = ensureTrailingSlash url := by
  apply String.toList_injective
  simp [dropSlashes_dropSlashes_slash]

/-! ## Schemes -/

theorem toList_httpPrefix : httpPrefix.toList = ['h', 't', 't', 'p', ':', '/', '/'] := by decide

theorem toList_httpsPrefix : httpsPrefix.toList = ['h', 't', 't', 'p', 's', ':', '/', '/'] := by decide

theorem isScheme_schemeFor (https : Bool) : IsScheme (schemeFor https).toList := by
  cases https with
  | false => exact Or.inl (by decide)
  | true => exact Or.inr (by decide)

theorem startsWith_asciiLower (word url : String) :
    Text.startsWith word (Text.asciiLower url) = word.toList.isPrefixOf (url.toList.map Char.toLower) := by
  simp [Text.startsWith, Text.asciiLower]

theorem hasScheme_eq_or (url : String) : hasScheme url =
    (httpPrefix.toList.isPrefixOf (url.toList.map Char.toLower) ||
      httpsPrefix.toList.isPrefixOf (url.toList.map Char.toLower)) := by
  rw [← startsWith_asciiLower, ← startsWith_asciiLower]
  rfl

/-- The two schemes differ before their slashes, so a URL has one of them at most. -/
theorem schemeLength_of_isScheme {url : String} {s rest : List Char} (hs : IsScheme s)
    (hu : url.toList = s ++ rest) : schemeLength url = s.length := by
  have hl : s.length = (s.map Char.toLower).length := by rw [List.length_map]
  unfold schemeLength
  rw [startsWith_asciiLower, startsWith_asciiLower, hu, List.map_append, hl]
  rcases hs with hs | hs
  · rw [hs, toList_httpPrefix]
    rfl
  · rw [hs, toList_httpPrefix, toList_httpsPrefix]
    rfl

theorem afterScheme_of_isScheme {url : String} {s rest : List Char} (hs : IsScheme s)
    (hu : url.toList = s ++ rest) : afterScheme url = rest := by
  rw [afterScheme, schemeLength_of_isScheme hs hu, hu, List.drop_left]

theorem hasScheme_of_isScheme {url : String} {s rest : List Char} (hs : IsScheme s)
    (hu : url.toList = s ++ rest) : hasScheme url = true := by
  rw [hasScheme_eq_or, hu, List.map_append]
  rcases hs with hs | hs
  · rw [hs, toList_httpPrefix]
    rfl
  · rw [hs, toList_httpPrefix, toList_httpsPrefix]
    rfl

/-- A URL with a scheme is some spelling of it, and the rest. -/
theorem exists_isScheme_of_hasScheme {url : String} (h : hasScheme url = true) :
    ∃ s, IsScheme s ∧ url.toList = s ++ afterScheme url := by
  have hp : ∃ word : String, (word = httpPrefix ∨ word = httpsPrefix) ∧
      word.toList <+: url.toList.map Char.toLower := by
    rw [hasScheme_eq_or, Bool.or_eq_true, List.isPrefixOf_iff_prefix, List.isPrefixOf_iff_prefix] at h
    rcases h with h | h
    · exact ⟨httpPrefix, Or.inl rfl, h⟩
    · exact ⟨httpsPrefix, Or.inr rfl, h⟩
  obtain ⟨word, hw, hp⟩ := hp
  have ht : (url.toList.take word.toList.length).map Char.toLower = word.toList := by
    rw [List.map_take]
    exact (List.prefix_iff_eq_take.mp hp).symm
  have hs : IsScheme (url.toList.take word.toList.length) := by
    rcases hw with rfl | rfl
    · exact Or.inl ht
    · exact Or.inr ht
  have hu := (List.take_append_drop word.toList.length url.toList).symm
  exact ⟨_, hs, by rw [afterScheme_of_isScheme hs hu]; exact hu⟩

theorem afterScheme_of_not_hasScheme {url : String} (h : hasScheme url = false) :
    afterScheme url = url.toList := by
  obtain ⟨hhttp, hhttps⟩ := Bool.or_eq_false_iff.mp h
  simp [afterScheme, schemeLength, hhttp, hhttps]

/-- With a scheme, its own or the one that is put before it. -/
theorem toList_ensureScheme (url : String) (https : Bool) : ∃ s, IsScheme s ∧
    (ensureScheme url https).toList = s ++ afterScheme url ∧
      (hasScheme url = false → s = (schemeFor https).toList) := by
  cases h : hasScheme url with
  | true =>
    obtain ⟨s, hs, hu⟩ := exists_isScheme_of_hasScheme h
    refine ⟨s, hs, ?_, fun hf => by cases hf⟩
    rw [ensureScheme, if_pos h]
    exact hu
  | false =>
    refine ⟨(schemeFor https).toList, isScheme_schemeFor https, ?_, fun _ => rfl⟩
    rw [ensureScheme, if_neg (by rw [h]; decide), String.toList_append, afterScheme_of_not_hasScheme h]

/-! ## Both together -/

/-- The scheme stays where something other than slashes follows it. -/
theorem toList_normal_of_namesHost {url : String} (h : namesHost url = true) {s : List Char}
    {full : String} (hu : full.toList = s ++ afterScheme url) :
    (ensureTrailingSlash full).toList = s ++ (dropSlashes (afterScheme url) ++ ['/']) := by
  have ha : (afterScheme url).any (· != '/') = true := h
  rw [toList_ensureTrailingSlash, hu, dropSlashes_append, if_pos ha, List.append_assoc]

theorem toLower_eq_slash_iff {c : Char} : c.toLower = '/' ↔ c = '/' := by
  constructor
  · intro h
    unfold Char.toLower at h
    split at h
    · next hu =>
      have hv := congrArg UInt32.toNat (congrArg Char.val h)
      simp [UInt32.le_iff_toNat_le] at hu
      simp [UInt32.toNat_add] at hv
      omega
    · exact h
  · rintro rfl
    decide

/-- Slashes are the same in lower case, and nothing else becomes one. -/
theorem beq_slash_comp_toLower : ((· == '/') ∘ Char.toLower : Char → Bool) = (· == '/') := by
  funext c
  rw [Function.comp_apply, Bool.eq_iff_iff, beq_iff_eq, beq_iff_eq, toLower_eq_slash_iff]

theorem map_toLower_dropSlashes (cs : List Char) :
    (dropSlashes cs).map Char.toLower = dropSlashes (cs.map Char.toLower) := by
  rw [dropSlashes, dropSlashes, List.map_reverse, ← List.map_reverse (l := cs), List.dropWhile_map,
    beq_slash_comp_toLower]

theorem any_map_toLower (cs : List Char) :
    (cs.map Char.toLower).any (· != '/') = cs.any (· != '/') := by
  have hc := beq_slash_comp_toLower
  rw [List.any_map]
  congr 1
  funext c
  have := congrFun hc c
  simp only [Function.comp_apply, bne] at this ⊢
  rw [this]

/-- Where nothing else follows it, the scheme loses its slashes and is none any more. -/
theorem hasScheme_of_not_namesHost {url : String} (h : namesHost url = false) {s : List Char}
    (hs : IsScheme s) {full : String} (hu : full.toList = s ++ afterScheme url) :
    hasScheme (ensureTrailingSlash full) = false ∧ namesHost (ensureTrailingSlash full) = true := by
  have ha : (afterScheme url).any (· != '/') = false := h
  have hl : (ensureTrailingSlash full).toList.map Char.toLower =
      dropSlashes (s.map Char.toLower) ++ ['/'] := by
    rw [toList_ensureTrailingSlash, hu, dropSlashes_append, ha, if_neg (by decide), List.map_append,
      map_toLower_dropSlashes]
    rfl
  have hf : hasScheme (ensureTrailingSlash full) = false := by
    rw [hasScheme_eq_or, hl, toList_httpPrefix, toList_httpsPrefix]
    rcases hs with hs | hs
    · rw [hs, toList_httpPrefix]
      decide
    · rw [hs, toList_httpsPrefix]
      decide
  refine ⟨hf, ?_⟩
  rw [namesHost, afterScheme_of_not_hasScheme hf, ← any_map_toLower, hl]
  rcases hs with hs | hs
  · rw [hs, toList_httpPrefix]
    decide
  · rw [hs, toList_httpsPrefix]
    decide

/-- The normal form has a scheme exactly if the URL names a host. -/
theorem hasScheme_normal (url : String) (https : Bool) :
    hasScheme (ensureTrailingSlash (ensureScheme url https)) = namesHost url := by
  obtain ⟨s, hs, hu, _⟩ := toList_ensureScheme url https
  cases h : namesHost url with
  | true => exact hasScheme_of_isScheme hs (toList_normal_of_namesHost h hu)
  | false => exact (hasScheme_of_not_namesHost h hs hu).1

/-- A scheme that has lost its slashes is taken for a host. -/
theorem namesHost_normal (url : String) (https : Bool)
    (h : hasScheme (ensureTrailingSlash (ensureScheme url https)) = false) :
    namesHost (ensureTrailingSlash (ensureScheme url https)) = true := by
  obtain ⟨s, hs, hu, _⟩ := toList_ensureScheme url https
  rw [hasScheme_normal] at h
  exact (hasScheme_of_not_namesHost h hs hu).2

/-- The scheme that a URL has already stays as it is spelled. -/
theorem scheme_isPrefix_normal {url : String} (h : namesHost url = true) {s : List Char} (hs : IsScheme s)
    (hp : s <+: url.toList) (https : Bool) :
    s <+: (ensureTrailingSlash (ensureScheme url https)).toList := by
  obtain ⟨rest, hr⟩ := hp
  have hu : url.toList = s ++ afterScheme url := by
    rw [afterScheme_of_isScheme hs hr.symm]
    exact hr.symm
  rw [ensureScheme, if_pos (hasScheme_of_isScheme hs hu), toList_normal_of_namesHost h hu]
  exact List.prefix_append s _

end MasterUrl

/-! ## Configurations -/

namespace Config

theorem keyAlgorithm_settled (c : Config) (url : String) (algorithm : Option KeyAlgorithm)
    (fs : FileSystem) (probe? : Option Probe) :
    (c.settled url algorithm).keyAlgorithm fs probe? = c.keyAlgorithm fs probe? := by
  unfold keyAlgorithm
  rw [clientKeyFile_settled, clientKeyData_settled]

/-- Settling twice is settling the second time. -/
theorem settled_settled (c : Config) (url url' : String) (algorithm algorithm' : Option KeyAlgorithm) :
    (c.settled url algorithm).settled url' algorithm' = c.settled url' algorithm' := by
  refine ext (fun f => ?_) rfl rfl
  by_cases hf : f.isSettled = false
  · rw [value_settled _ _ _ hf, value_settled _ _ _ hf, value_settled _ _ _ hf]
  · cases f
    case masterUrl => exact (masterUrl_settled _ _ _).trans (masterUrl_settled _ _ _).symm
    case clientKeyAlgorithm => exact (algorithm_settled _ _ _).trans (algorithm_settled _ _ _).symm
    all_goals exact absurd rfl hf

/-- With a scheme in place nothing is left open that the check would have to decide. -/
theorem normalUrl_of_hasScheme {c : Config} (h : MasterUrl.hasScheme c.masterUrl = true)
    (https : TlsCheck) :
    (c.normalUrl https).result = .ok (MasterUrl.ensureTrailingSlash c.masterUrl) := by
  rw [normalUrl, if_pos h]
  rfl

/-- Normal form is its own normal form exactly if the URL names a host. -/
theorem normalize_again {c d : Config} {https : TlsCheck} {fs : FileSystem} {probe? : Option Probe}
    (h : (c.normalize https fs probe?).result = .ok d) :
    (d.normalize https fs probe?).result = .ok d ↔ MasterUrl.namesHost c.masterUrl = true := by
  obtain ⟨_, url, algorithm, hu, ha, rfl⟩ := normalize_eq_ok.mp h
  obtain ⟨available, rfl⟩ := normalUrl_eq_ok hu
  constructor
  · intro again
    obtain ⟨_, url', algorithm', hu', _, hd⟩ := normalize_eq_ok.mp again
    obtain ⟨available', rfl⟩ := normalUrl_eq_ok hu'
    have hm := congrArg masterUrl hd
    rw [masterUrl_settled, masterUrl_settled] at hm
    have hs := congrArg MasterUrl.hasScheme hm
    rw [MasterUrl.hasScheme_normal] at hs
    cases hn : MasterUrl.hasScheme
        (MasterUrl.ensureTrailingSlash (MasterUrl.ensureScheme c.masterUrl available)) with
    | true => rw [← MasterUrl.hasScheme_normal, hn]
    | false =>
      rw [hn, MasterUrl.namesHost_normal _ _ hn] at hs
      cases hs
  · intro hn
    have hs := MasterUrl.hasScheme_normal c.masterUrl available
    rw [hn] at hs
    refine normalize_eq_ok.mpr ⟨?_, _, algorithm, normalUrl_of_hasScheme ?_ https, ?_, ?_⟩
    · rw [masterUrl_settled]
      intro he
      rw [he] at hs
      revert hs
      decide
    · rw [masterUrl_settled]
      exact hs
    · rw [keyAlgorithm_settled]
      exact ha
    · rw [masterUrl_settled, MasterUrl.ensureTrailingSlash_idem, settled_settled]

/-- The master URL of a configuration in normal form ends with one slash. It has a scheme, and is its own
normal form, exactly if the URL that it was made from names a host; then a scheme of that URL is kept. -/
theorem normalize_normalForm {c d : Config} {https : TlsCheck} {fs : FileSystem} {probe? : Option Probe}
    (h : (c.normalize https fs probe?).result = .ok d) :
    MasterUrl.EndsInOneSlash d.masterUrl ∧
      (MasterUrl.hasScheme d.masterUrl = true ↔ MasterUrl.namesHost c.masterUrl = true) ∧
      ((d.normalize https fs probe?).result = .ok d ↔ MasterUrl.namesHost c.masterUrl = true) ∧
      (MasterUrl.namesHost c.masterUrl = true → ∀ s, MasterUrl.IsScheme s →
        s <+: c.masterUrl.toList → s <+: d.masterUrl.toList) := by
  have again := normalize_again h
  obtain ⟨_, url, algorithm, hu, _, rfl⟩ := normalize_eq_ok.mp h
  obtain ⟨available, rfl⟩ := normalUrl_eq_ok hu
  rw [masterUrl_settled]
  refine ⟨MasterUrl.endsInOneSlash_ensureTrailingSlash _, ?_, again, fun hn s hs hp => ?_⟩
  · rw [MasterUrl.hasScheme_normal]
  · exact MasterUrl.scheme_isPrefix_normal hn hs hp available

/-- The normal form of a host and a port, with its scheme spelled in capitals. -/
theorem normalize_normalForm_sample : ∃ d,
    ((Config.default.set .masterUrl "HTTPS://api:6443//").normalize (fun _ => pure false)
      (World.sample [] []).fs none).result = .ok d ∧ d.masterUrl = "HTTPS://api:6443/" ∧
        (d.normalize (fun _ => pure false) (World.sample [] []).fs none).result = .ok d := by
  obtain ⟨d, hd, hm⟩ := except_ok_of_map (show ((Config.default.set .masterUrl "HTTPS://api:6443//").normalize
    (fun _ => pure false) (World.sample [] []).fs none).result.toOption.map masterUrl =
      some "HTTPS://api:6443/" by decide +kernel)
  exact ⟨d, hd, hm, (normalize_normalForm hd).2.2.1.mpr (by decide +kernel)⟩

/-- A scheme with nothing after it is lost, and the next normal form is another one. -/
theorem scheme_without_host_is_lost : ∃ d e,
    ((Config.default.set .masterUrl "https://").normalize (fun _ => pure true)
      (World.sample [] []).fs none).result = .ok d ∧ d.masterUrl = "https:/" ∧
        MasterUrl.hasScheme d.masterUrl = false ∧
        (d.normalize (fun _ => pure true) (World.sample [] []).fs none).result = .ok e ∧
          e.masterUrl = "https://https:/" := by
  obtain ⟨⟨d, e⟩, h, hm⟩ := except_ok_of_map (show
    (do let d ← (Config.default.set .masterUrl "https://").normalize (fun _ => pure true)
          (World.sample [] []).fs none
        let e ← d.normalize (fun _ => pure true) (World.sample [] []).fs none
        return (d, e) : Traced (Config × Config)).result.toOption.map
      (fun (d, e) => (d.masterUrl, e.masterUrl)) = some ("https:/", "https://https:/") by
        decide +kernel)
  obtain ⟨d', hd, h⟩ := Traced.bind_eq_ok.mp h
  obtain ⟨e', he, h⟩ := Traced.bind_eq_ok.mp h
  cases h
  obtain ⟨hd', he'⟩ := Prod.mk.inj hm
  refine ⟨d, e, hd, hd', ?_, he, he'⟩
  rw [show d.masterUrl = "https:/" from hd']
  decide

end Config

end ClusterAccess
