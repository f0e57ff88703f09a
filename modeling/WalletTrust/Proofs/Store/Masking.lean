import WalletTrust.Proofs.Store.Connection
import WalletTrust.Startup

/-!
# What is shown of an address

Of an address with a login, a mask shows the host, the port and the database, whatever the login and
the query are, as long as there is no question mark in the login. If there is one, the mask shows
the login up to it instead.
-/

namespace WalletTrust.Store

open Text (Points)

namespace Url

/-- The parts of an address with a login, as they are written. -/
structure Written where
  scheme : Points
  user : Points
  password : Points
  host : Points
  port? : Option Points := none
  database : Points
  query? : Option Points := none

namespace Written

def login (w : Written) : Points := w.user ++ colon :: w.password

def place (w : Written) : Points :=
  w.host ++ (w.port?.elim [] (colon :: ·) ++ slash :: w.database)

def afterLogin (w : Written) : Points := w.place ++ w.query?.elim [] (question :: ·)

def text (w : Written) : Points :=
  w.scheme ++ colon :: slash :: slash :: (w.login ++ atSign :: w.afterLogin)

/-- What keeps the parts of an address apart. The password may hold anything but an `@`. -/
structure IsProper (w : Written) : Prop where
  scheme : w.scheme ≠ [] ∧ ∀ point ∈ w.scheme, isSchemePoint point = true
  user : ∀ point ∈ w.user, point ≠ colon ∧ point ≠ slash ∧ point ≠ atSign
  password : atSign ∉ w.password
  place : atSign ∉ w.place ∧ question ∉ w.place

end Written

private theorem splitAt?_of_notMem {point : Nat} {s : Points} (h : point ∉ s) (rest : Points) :
    splitAt? (· == point) (s ++ point :: rest) = some (s, rest) := by
  have hs : ∀ p ∈ s, (!(p == point)) = true := by
    intro p hp
    have hne : p ≠ point := fun heq => h (heq ▸ hp)
    simpa using hne
  simp [splitAt?, List.dropWhile_append_of_pos hs, List.takeWhile_append_of_pos hs]

/-- A login reaches up to the first `@` behind its first colon. -/
theorem credentials_login {w : Written} (hw : w.IsProper) (rest : Points) :
    credentials (w.login ++ atSign :: rest) = (w.user, w.password, rest) := by
  have huser : ∀ p ∈ w.user, (p != colon && p != slash) = true := by
    intro p hp
    obtain ⟨hcolon, hslash, -⟩ := hw.user p hp
    simp [hcolon, hslash]
  have hhead : (w.login ++ atSign :: rest).takeWhile (fun c => c != colon && c != slash) =
      w.user := by
    simp [Written.login, List.takeWhile_append_of_pos huser]
  have htail : (w.login ++ atSign :: rest).drop w.user.length =
      colon :: (w.password ++ atSign :: rest) := by
    simp [Written.login]
  have hsplit := splitAt?_of_notMem hw.password rest
  simp only [credentials, hhead, htail]
  simp [colon, hsplit]

/-- Whoever opens the database reads user and password as they are written. -/
theorem ofPoints_text {w : Written} (hw : w.IsProper) :
    ∃ url, ofPoints w.text = (checkPort url.port?).map (fun _ => url) ∧ url.scheme = w.scheme ∧
      url.user = w.user ∧ url.password = w.password := by
  have hcolon : isSchemePoint colon = false := by decide +kernel
  have hscheme : w.text.takeWhile isSchemePoint = w.scheme := by
    simp [Written.text, List.takeWhile_append_of_pos hw.scheme.2, hcolon]
  have hrest : w.text.drop w.scheme.length =
      colon :: slash :: slash :: (w.login ++ atSign :: w.afterLogin) := by
    simp [Written.text]
  have hlogin := credentials_login hw w.afterLogin
  refine ⟨ofRest w.scheme (w.login ++ atSign :: w.afterLogin), ?_, rfl, ?_, ?_⟩
  · obtain ⟨first, others, hfirst⟩ := List.exists_cons_of_ne_nil hw.scheme.1
    rw [ofPoints, hscheme, hrest, hfirst]
    rfl
  · simp only [ofRest, hlogin]
  · simp only [ofRest, hlogin]

end Url

open Url (Written slash question atSign)

theorem takeWhile_ne_append {point : Nat} {s : Points} (h : point ∉ s) (rest : Points) :
    (s ++ rest).takeWhile (· != point) = s ++ rest.takeWhile (· != point) := by
  refine List.takeWhile_append_of_pos ?_
  intro p hp
  have hne : p ≠ point := fun heq => h (heq ▸ hp)
  simpa using hne

theorem afterCredentials_of_notMem {s : Points} (h : atSign ∉ s) : afterCredentials s = s := by
  have htaken := takeWhile_ne_append (s := s.reverse) (by simpa using h) []
  rw [List.append_nil, List.takeWhile_nil, List.append_nil] at htaken
  rw [afterCredentials, htaken, List.reverse_reverse]

theorem afterCredentials_append {s : Points} (h : atSign ∉ s) (before : Points) :
    afterCredentials (before ++ atSign :: s) = s := by
  have hreverse : (before ++ atSign :: s).reverse = s.reverse ++ atSign :: before.reverse := by simp
  rw [afterCredentials, hreverse, takeWhile_ne_append (by simpa using h)]
  simp

theorem afterSlashes_cons {point : Nat} (h : point ≠ slash) (read rest : Points) :
    afterSlashes read (point :: rest) = afterSlashes (point :: read) rest := by
  rw [afterSlashes]
  intro _ hpoint
  exact absurd hpoint h

private theorem afterSlashes_append {s : Points} (h : slash ∉ s) (read rest : Points) :
    afterSlashes read (s ++ rest) = afterSlashes (s.reverse ++ read) rest := by
  induction s generalizing read with
  | nil => rfl
  | cons point s ih =>
    rw [List.mem_cons, not_or] at h
    rw [List.cons_append, afterSlashes_cons (Ne.symm h.1), ih h.2]
    simp

private theorem afterSlashes_of_single {s : Points} (h : ¬ [slash, slash] <:+: s) (read : Points) :
    afterSlashes read s = read.reverse ++ s := by
  fun_induction afterSlashes read s with
  | case1 read => simp
  | case2 read rest ih => exact absurd ⟨[], rest, rfl⟩ h
  | case3 read point rest hother ih =>
    have hrest : ¬ [slash, slash] <:+: rest := by
      intro hin
      exact h (hin.trans (List.suffix_cons ..).isInfix)
    rw [ih hrest]
    simp

/-- Everything up to the double slash behind a scheme is left out. -/
theorem afterSlashes_scheme {w : Written} (hw : w.IsProper) (rest : Points) :
    afterSlashes [] (w.scheme ++ Url.colon :: slash :: slash :: rest) = afterSlashes [] rest := by
  have hslash : slash ∉ w.scheme := by
    intro hmem
    have hpoint := hw.scheme.2 slash hmem
    exact absurd hpoint (by decide +kernel)
  rw [afterSlashes_append hslash, afterSlashes_cons (by decide)]
  rfl

namespace Url.Written

variable {w : Written}

theorem IsProper.question_notMem_scheme (hw : w.IsProper) : question ∉ w.scheme := by
  intro hmem
  have hpoint := hw.scheme.2 question hmem
  exact absurd hpoint (by decide +kernel)

theorem IsProper.atSign_notMem_scheme (hw : w.IsProper) : atSign ∉ w.scheme := by
  intro hmem
  have hpoint := hw.scheme.2 atSign hmem
  exact absurd hpoint (by decide +kernel)

private theorem IsProper.atSign_notMem_login (hw : w.IsProper) : atSign ∉ w.login := by
  intro hmem
  rcases List.mem_append.1 hmem with huser | hpassword
  · exact (hw.user atSign huser).2.2 rfl
  · rcases List.mem_cons.1 hpassword with hcolon | hpassword
    · exact absurd hcolon (by decide)
    · exact hw.password hpassword

/-- Without a question mark in the login, the first one starts the query. -/
theorem takeWhile_text (hw : w.IsProper) (h : question ∉ w.login) :
    w.text.takeWhile (· != question) =
      (w.scheme ++ colon :: slash :: slash :: w.login) ++ atSign :: w.place := by
  have hscheme := hw.question_notMem_scheme
  have hopening : question ∉ w.scheme ++ colon :: slash :: slash :: (w.login ++ [atSign]) := by
    simpa [question, colon, slash, atSign] using And.intro hscheme h
  have hquery : (w.query?.elim [] (question :: ·)).takeWhile (· != question) = [] := by
    cases w.query? <;> simp
  have htext : w.text = (w.scheme ++ colon :: slash :: slash :: (w.login ++ [atSign])) ++
      (w.place ++ w.query?.elim [] (question :: ·)) := by
    simp [text, afterLogin]
  rw [htext, takeWhile_ne_append hopening, takeWhile_ne_append hw.place.2, hquery]
  simp

theorem masked_text (hw : w.IsProper) (h : question ∉ w.login) :
    masked w.text = afterSlashes [] w.place := by
  rw [masked, takeWhile_text hw h, afterCredentials_append hw.place.1]

/-- A question mark in the login is taken for the start of the query, so that no `@` is left to cut
at. -/
theorem masked_text_of_question (hw : w.IsProper) (h : question ∈ w.login) :
    masked w.text = afterSlashes [] (w.login.takeWhile (· != question)) := by
  obtain ⟨shown, hidden, hlogin, hshown⟩ := List.eq_append_cons_of_mem h
  have hopening : question ∉ w.scheme ++ colon :: slash :: slash :: shown := by
    simpa [question, colon, slash] using And.intro hw.question_notMem_scheme hshown
  have htext : w.text = (w.scheme ++ colon :: slash :: slash :: shown) ++
      question :: (hidden ++ atSign :: w.afterLogin) := by
    simp [text, hlogin]
  have hcut : w.text.takeWhile (· != question) = w.scheme ++ colon :: slash :: slash :: shown := by
    rw [htext, takeWhile_ne_append hopening]
    simp
  have hlast : atSign ∉ w.scheme ++ colon :: slash :: slash :: shown := by
    have hlogged := hw.atSign_notMem_login
    rw [hlogin, List.mem_append, not_or] at hlogged
    simpa [colon, slash, atSign] using And.intro hw.atSign_notMem_scheme hlogged.1
  have hprefix : w.login.takeWhile (· != question) = shown := by
    rw [hlogin, takeWhile_ne_append hshown]
    simp
  rw [masked, hcut, afterCredentials_of_notMem hlast, afterSlashes_scheme hw, hprefix]

end Url.Written

/-- Tables are created for a store whatever its address is. -/
theorem created_url (s : Store) (url : Points) :
    ({ s with url } : Store).created = s.created.within fun left => { left with url } := by
  have hfound : ({ s with url } : Store).found = s.found := rfl
  unfold created
  rw [Process.bind_apply, Process.bind_apply, Process.query_apply, Process.query_apply, hfound]
  cases s.found with
  | error f => rfl
  | ok found? =>
    cases found? with
    | some t => rfl
    | none =>
      have hput : ({ s with url } : Store).put (some {}) = { s.put (some {}) with url } := by
        obtain ⟨-, location, disk, own?⟩ := s
        cases location <;> rfl
      have hcheck : ({ s with url } : Store).checkWritable = s.checkWritable := rfl
      simp only [Effect.andThen_ok, write, Process.bind_apply, Process.query_apply, hcheck]
      cases s.checkWritable with
      | error f => rfl
      | ok _ => simp [hput]

private theorem initialise_log_of_masked {url url' : Points} (h : masked url' = masked url)
    (s : Store) :
    ({ s with url := url' } : Store).initialise.log =
      ({ s with url } : Store).initialise.log := by
  unfold initialise
  simp only [Process.bind_apply, Process.rescue_apply, created_url s url, created_url s url']
  obtain ⟨answer, left, log⟩ := s.created
  cases answer with
  | error f => rfl
  | ok _ => simp [maskUrl, h]

/-- A mask shows of an address with a login what follows the last double slash in host, port and
database, which is all of them if there is none, so that neither a configuration nor the entries of
a start tell one login or query from another. This holds for logins without a question mark; of one
with a question mark, what stands before it is shown. -/
theorem masks_hide_logins_without_question_marks {w : Written} (hw : w.IsProper) :
    (∃ url, Url.ofPoints w.text = (Url.checkPort url.port?).map (fun _ => url) ∧
      url.scheme = w.scheme ∧ url.user = w.user ∧ url.password = w.password) ∧
      (question ∉ w.login →
        masked w.text = afterSlashes [] w.place ∧
        (¬ [slash, slash] <:+: w.place → masked w.text = w.place) ∧
        ∀ w' : Written, w'.IsProper → question ∉ w'.login → w'.place = w.place →
          (∀ c : Configuration,
            let other := { c with databaseUrl := w'.text }
            let same := { c with databaseUrl := w.text }
            other.fields = same.fields ∧ Startup.builtEntry other = Startup.builtEntry same) ∧
          ∀ s : Store, ({ s with url := w'.text } : Store).initialise.log =
            ({ s with url := w.text } : Store).initialise.log) ∧
      (question ∈ w.login →
        masked w.text = afterSlashes [] (w.login.takeWhile (· != question))) := by
  refine ⟨Url.ofPoints_text hw, ?_, Url.Written.masked_text_of_question hw⟩
  intro h
  have hmask := Url.Written.masked_text hw h
  refine ⟨hmask, ?_, ?_⟩
  · intro hsingle
    rw [hmask, afterSlashes_of_single hsingle]
    rfl
  · intro w' hw' h' hplace
    have hsame : masked w'.text = masked w.text := by
      rw [hmask, Url.Written.masked_text hw' h', hplace]
    have hfields : ∀ c : Configuration,
        ({ c with databaseUrl := w'.text } : Configuration).fields =
          ({ c with databaseUrl := w.text } : Configuration).fields := by
      intro c
      simp only [Configuration.fields, maskUrl, hsame]
    refine ⟨fun c => ⟨hfields c, ?_⟩, initialise_log_of_masked hsame⟩
    simp only [Startup.builtEntry, hfields c]

def tangled : Written where
  scheme := Text.toPoints "postgresql"
  user := Text.toPoints "admin"
  password := Text.toPoints "//s:cr/t"
  host := Text.toPoints "db"
  port? := some (Text.toPoints "5432")
  database := Text.toPoints "turboauth"
  query? := some (Text.toPoints "a=b@c//d?e")

theorem isProper_tangled : tangled.IsProper := by
  refine ⟨⟨?_, ?_⟩, ?_, ?_, ?_, ?_⟩ <;> decide +kernel

theorem masks_hide_logins_without_question_marks_tangled :
    masked tangled.text = Text.toPoints "db:5432/turboauth" := by
  have hquestion : question ∉ tangled.login := by decide +kernel
  have hsingle : ¬ [slash, slash] <:+: tangled.place := by decide +kernel
  have hplace : tangled.place = Text.toPoints "db:5432/turboauth" := by decide +kernel
  obtain ⟨-, hhidden, -⟩ := masks_hide_logins_without_question_marks isProper_tangled
  rw [(hhidden hquestion).2.1 hsingle, hplace]

def revealing : Written := { tangled with password := Text.toPoints "s3cr?t", query? := none }

/-- Not every mask hides the password. -/
theorem mask_shows_password_up_to_question_mark :
    revealing.IsProper ∧ ¬ [slash, slash] <:+: revealing.place ∧
      revealing.text = Text.toPoints "postgresql://admin:s3cr?t@db:5432/turboauth" ∧
      masked revealing.text = Text.toPoints "admin:s3cr" ∧
      masked revealing.text ≠ revealing.place := by
  refine ⟨⟨⟨?_, ?_⟩, ?_, ?_, ?_, ?_⟩, ?_, ?_, ?_, ?_⟩ <;> decide +kernel

end WalletTrust.Store
