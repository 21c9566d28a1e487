import Lorawan.Lib.Text
import Lorawan.Backend.DnsRecords

/-!
# Resolving a host name (libbackend/resolve.c:351-478)

The outer loop tries the NAPTR records of a name in order of preference, the inner one the SRV
records of a replacement; a record that was tried leaves its slot. A `P` record resolves another
name with the same function, so there is fuel for the depth of the calls.
-/

namespace Lorawan.Backend
open Lorawan Lorawan.Preference

/-- `struct _host_list` (`libserver.h:499-504`). -/
structure _host_list where
  name : Octets
  postTo : Octets
  port : UInt16

/-- What names lead to. A name without an answer has no slot. -/
structure Dns where
  res_init : Bool
  host_list : List _host_list
  naptr : Octets → List (Option naptr_rdata)
  srv : Octets → List (Option srv_rdata)

/-- The calls to `rand()` so far, and `CURLOPT_URL`. -/
structure Handle where
  calls : ℕ
  url : Option Octets

/-- `"http://%s:%u"`. -/
def httpUrl (name : Octets) (port : UInt16) : Octets :=
  "http://".toList.map (fun c => UInt8.ofNat c.toNat) ++ name ++
    ":".toList.map (fun c => UInt8.ofNat c.toNat) ++
    (Text.print 10 port.toNat).map (fun c => UInt8.ofNat c.toNat)

namespace naptr_rdata

/-- `flags[0]`, which is the terminator where there are no flags. -/
def flag (n : naptr_rdata) : UInt8 := n.flags.headD 0

end naptr_rdata

def flagS : UInt8 := 83

def flagU : UInt8 := 85

def flagP : UInt8 := 80

/-! ### The functions -/

variable (D : Dns) (curl : Bool) (rand : ℕ → ℕ)

/-- `curl_easy_setopt(curl, CURLOPT_URL, url)`; without a handle nothing is set. -/
def setUrl (url : Octets) (st : Handle) : Handle :=
  if curl then { st with url := some url } else st

def local_lookup_post (hostname : Octets) : Option Octets :=
  (D.host_list.find? fun hl => hostname = hl.name).map fun hl => httpUrl hl.postTo hl.port

/-- The loop over the SRV records, with fuel for its turns. -/
def srvLoop : ℕ → List (Option srv_rdata) → Int → Handle → Option (Int × Handle)
  | 0, _, _, _ => none
  | turns + 1, sl, ret, st =>
    let st' := { st with calls := st.calls + 1 }
    match get_srv (rand st.calls) sl with
    | none => some (ret, st')
    | some k =>
      match sl[k]?.join with
      | none => none
      | some s =>
        if curl then
          srvLoop turns (sl.set k none) 0 (setUrl curl (httpUrl s.name s.port) st')
        else some (ret, st')

/-- The loop over the NAPTR records; `inner` resolves another name. -/
def naptrLoop (inner : Octets → Handle → Option (Int × Handle)) :
    ℕ → List (Option naptr_rdata) → Int → Handle → Option (Int × Handle)
  | 0, _, _, _ => none
  | turns + 1, nl, ret, st =>
    let st' := { st with calls := st.calls + 1 }
    match get_naptr (rand st.calls) nl with
    | none => some (ret, st')
    | some k =>
      match nl[k]?.join with
      | none => none
      | some n =>
        let rest := nl.set k none
        if n.flag = flagS then
          let sl := D.srv n.repl
          if sl = [] then naptrLoop inner turns rest ret st'
          else
            match srvLoop curl rand (sl.length + 1) sl ret st' with
            | none => none
            | some (ret, st) =>
              if ret = 0 then some (ret, st) else naptrLoop inner turns rest ret st
        else if n.flag = flagU then
          if curl then naptrLoop inner turns rest 0 (setUrl curl n.repl st')
          else naptrLoop inner turns rest ret st'
        else if n.flag = flagP then
          match inner n.repl st' with
          | none => none
          | some (r, st) =>
            if r = 0 then some (ret, st) else naptrLoop inner turns rest ret st
        else naptrLoop inner turns rest ret st'

def resolve_post : ℕ → Octets → Handle → Option (Int × Handle)
  | 0, _, _ => none
  | depth + 1, hostname, st =>
    if D.res_init then
      match local_lookup_post D hostname with
      | some url => some (0, setUrl curl url st)
      | none =>
        let nl := D.naptr hostname
        if nl = [] then some (-1, st)
        else naptrLoop D curl rand (resolve_post depth) (nl.length + 1) nl (-1) st
    else some (-1, st)

/-! ### What resolving is for -/

def records (hostname : Octets) : List naptr_rdata := (D.naptr hostname).reduceOption

def servers (name : Octets) : List srv_rdata := (D.srv name).reduceOption

/-- A name that leads to a URL. -/
inductive Usable : Octets → Prop
  | host {hostname url : Octets} (h : local_lookup_post D hostname = some url) : Usable hostname
  | uri {hostname : Octets} {n : naptr_rdata} (hn : n ∈ records D hostname)
      (hflag : n.flag = flagU) : Usable hostname
  | server {hostname : Octets} {n : naptr_rdata} (hn : n ∈ records D hostname)
      (hflag : n.flag = flagS) (hs : servers D n.repl ≠ []) : Usable hostname
  | via {hostname : Octets} {n : naptr_rdata} (hn : n ∈ records D hostname)
      (hflag : n.flag = flagP) (hrepl : Usable n.repl) : Usable hostname

/-- A record that leads to a URL. -/
def UsableRecord (n : naptr_rdata) : Prop :=
  n.flag = flagU ∨ n.flag = flagS ∧ servers D n.repl ≠ [] ∨ n.flag = flagP ∧ Usable D n.repl

/-- `n` is tried before `m`. -/
abbrev Precedes (n m : naptr_rdata) : Prop :=
  Before naptr_rdata.orderKey naptr_rdata.prefKey n m

/-- A most preferred usable record. -/
structure Best (hostname : Octets) (n : naptr_rdata) : Prop where
  mem : n ∈ records D hostname
  usable : UsableRecord D n
  first : ∀ m ∈ records D hostname, UsableRecord D m → ¬Precedes m n

/-- The URL of a most preferred usable record. -/
inductive Preferred : Octets → Octets → Prop
  | host {hostname url : Octets} (h : local_lookup_post D hostname = some url) :
      Preferred hostname url
  | uri {hostname : Octets} {n : naptr_rdata} (hlocal : local_lookup_post D hostname = none)
      (hn : Best D hostname n) (hflag : n.flag = flagU) : Preferred hostname n.repl
  | server {hostname : Octets} {n : naptr_rdata} {s : srv_rdata}
      (hlocal : local_lookup_post D hostname = none) (hn : Best D hostname n)
      (hflag : n.flag = flagS)
      (hs : Least srv_rdata.priorityKey srv_rdata.weightKey (servers D n.repl) s) :
      Preferred hostname (httpUrl s.name s.port)
  | via {hostname url : Octets} {n : naptr_rdata}
      (hlocal : local_lookup_post D hostname = none) (hn : Best D hostname n)
      (hflag : n.flag = flagP) (hrepl : Preferred n.repl url) : Preferred hostname url

/-- The call returns with enough fuel, whatever `rand()` gives, with 0 exactly if it has set a URL,
the preferred one; it sets none only where there is none. -/
def Resolves (hostname : Octets) : Prop :=
  ∃ enough, ∀ depth, enough ≤ depth → ∀ rand, ∃ ret st,
    resolve_post D curl rand depth hostname ⟨0, none⟩ = some (ret, st) ∧
    (ret = 0 ↔ st.url.isSome) ∧ (∀ url, st.url = some url → Preferred D hostname url) ∧
    (st.url = none → ¬Usable D hostname)

/-! ### Where it does -/

/-- A record whose servers end the outer loop when they come after a URL. -/
def Stopper (hostname : Octets) (s : naptr_rdata) : Prop :=
  s ∈ records D hostname ∧ s.flag = flagS ∧ D.srv s.repl ≠ [] ∧
    ∃ b, Best D hostname b ∧ (Best D hostname s ∨ Precedes b s)

/-- The loop ends before this record. -/
def Stopped (hostname : Octets) (m : naptr_rdata) : Prop :=
  ∃ s, Stopper D hostname s ∧ Precedes s m

/-- `name` is resolved on the way to `hostname`. -/
def Visits (name hostname : Octets) : Prop :=
  local_lookup_post D hostname = none ∧ ∃ p ∈ records D hostname, p.flag = flagP ∧
    p.repl = name ∧ ¬Stopped D hostname p

/-- Content and name that avoid what the code does wrong. -/
structure Sound (hostname : Octets) : Prop where
  able : Usable D hostname → curl = true ∧ D.res_init = true
  /-- The most preferred usable records are URIs, and servers that are all alike. -/
  alike : local_lookup_post D hostname = none → ∀ n, Best D hostname n →
    n.flag = flagU ∨ n.flag = flagS ∧ ∀ s ∈ servers D n.repl, ∀ s' ∈ servers D n.repl,
      s.priorityKey = s'.priorityKey ∧ s.weightKey = s'.weightKey
  /-- No other usable record is tried after them. -/
  alone : local_lookup_post D hostname = none → ∀ m ∈ records D hostname, UsableRecord D m →
    Best D hostname m ∨ Stopped D hostname m
  /-- No choice misses before one of them is tried. -/
  steady : local_lookup_post D hostname = none → Usable D hostname →
    Steady naptr_rdata.orderKey naptr_rdata.prefKey (Best D hostname) (records D hostname)
  /-- The names that are resolved on the way do not go on for ever. -/
  grounded : Acc (Visits D) hostname

/-! ### Usable records -/

variable {D curl rand}

theorem UsableRecord.usable {hostname : Octets} {n : naptr_rdata} (h : UsableRecord D n)
    (hn : n ∈ records D hostname) : Usable D hostname := by
  rcases h with hflag | ⟨hflag, hs⟩ | ⟨hflag, hrepl⟩
  · exact .uri hn hflag
  · exact .server hn hflag hs
  · exact .via hn hflag hrepl

theorem Preferred.usable {hostname url : Octets} (h : Preferred D hostname url) :
    Usable D hostname := by
  cases h with
  | host h => exact .host h
  | uri _ hn _ => exact hn.usable.usable hn.mem
  | server _ hn _ _ => exact hn.usable.usable hn.mem
  | via _ hn _ _ => exact hn.usable.usable hn.mem

theorem not_best_of_not_usable {hostname : Octets} {n : naptr_rdata} (h : ¬UsableRecord D n) :
    ¬Best D hostname n := fun hn => h hn.usable

theorem sound_of_not_usable {hostname : Octets} (h : ¬Usable D hostname)
    (hacc : Acc (Visits D) hostname) : Sound D curl hostname where
  able hu := absurd hu h
  alike _ _ hn := absurd (hn.usable.usable hn.mem) h
  alone _ _ hm hu := absurd (hu.usable hm) h
  steady _ hu := absurd hu h
  grounded := hacc

/-! ### A slot is cleared -/

theorem mem_erase_of_ne {α : Type} {a c : α} {before after : List α}
    (hc : c ∈ before ++ a :: after) (hne : c ≠ a) : c ∈ before ++ after := by
  rcases List.mem_append.mp hc with hc | hc
  · exact List.mem_append_left after hc
  · rcases List.mem_cons.mp hc with heq | hc
    · exact absurd heq hne
    · exact List.mem_append_right before hc

theorem mem_of_mem_erase {α : Type} {a c : α} {before after : List α} (hc : c ∈ before ++ after) :
    c ∈ before ++ a :: after := by
  rcases List.mem_append.mp hc with hc | hc
  · exact List.mem_append_left _ hc
  · exact List.mem_append_right _ (List.mem_cons_of_mem a hc)

theorem length_set_lt {α : Type} {l : List (Option α)} {a : α} {before after : List α}
    {k turns : ℕ} (hsplit : l.reduceOption = before ++ a :: after)
    (hset : (l.set k none).reduceOption = before ++ after)
    (hturns : l.reduceOption.length < turns + 1) : (l.set k none).reduceOption.length < turns := by
  rw [hsplit] at hturns
  rw [hset]
  simp only [List.length_append, List.length_cons] at hturns ⊢
  omega

/-! ### The loop over the servers -/

theorem get_srv_takes {r k : ℕ} {sl : List (Option srv_rdata)} (h : get_srv r sl = some k) :
    ∃ s before after, sl[k]? = some (some s) ∧ sl.reduceOption = before ++ s :: after ∧
      (sl.set k none).reduceOption = before ++ after := by
  obtain ⟨s, before, after, hslot, -, hsplit, hset⟩ :=
    select_takes (fun s => s.keys_lt.1) (fun s => s.keys_lt.2) h
  exact ⟨s, before, after, hslot, hsplit, hset⟩

theorem srvLoop_nil (curl : Bool) (rand : ℕ → ℕ) (turns : ℕ) (ret : Int) (st : Handle)
    {sl : List (Option srv_rdata)} (hnil : sl.reduceOption = []) :
    ∃ st', srvLoop curl rand (turns + 1) sl ret st = some (ret, st') ∧ st'.url = st.url := by
  have hnone : get_srv (rand st.calls) sl = none := select_nil _ hnil
  rw [srvLoop, hnone]
  exact ⟨_, rfl, rfl⟩

/-- Of servers that are all alike one is left, whichever. -/
theorem srvLoop_alike (rand : ℕ → ℕ) {turns : ℕ} (ret : Int) (st : Handle)
    {sl : List (Option srv_rdata)} (hturns : sl.reduceOption.length < turns)
    (halike : ∀ s ∈ sl.reduceOption, ∀ s' ∈ sl.reduceOption,
      s.priorityKey = s'.priorityKey ∧ s.weightKey = s'.weightKey) :
    ∃ ret' st', srvLoop true rand turns sl ret st = some (ret', st') ∧
      (sl.reduceOption = [] ∧ ret' = ret ∧ st'.url = st.url ∨
        ret' = 0 ∧ ∃ s ∈ sl.reduceOption, st'.url = some (httpUrl s.name s.port)) := by
  induction turns generalizing sl ret st with
  | zero => omega
  | succ turns ih =>
    rw [srvLoop]
    cases hk : get_srv (rand st.calls) sl with
    | none =>
      refine ⟨ret, _, rfl, Or.inl ⟨?_, rfl, rfl⟩⟩
      by_contra hne
      exact (select_ne_none_iff (fun s => s.keys_lt.1) (fun s => s.keys_lt.2) hne).mpr
        (leastFirst_of_alike hne halike) _ hk
    | some k =>
      obtain ⟨s, before, after, hslot, hsplit, hset⟩ := get_srv_takes hk
      dsimp only
      rw [hslot]
      have hmem : ∀ c ∈ before ++ after, c ∈ sl.reduceOption := by
        intro c hc
        rw [hsplit]
        exact mem_of_mem_erase hc
      obtain ⟨ret', st', hrun, hout⟩ := ih 0
        (setUrl true (httpUrl s.name s.port) { st with calls := st.calls + 1 })
        (length_set_lt hsplit hset hturns)
        (by
          rw [hset]
          intro c hc c' hc'
          exact halike c (hmem c hc) c' (hmem c' hc'))
      refine ⟨ret', st', hrun, Or.inr ?_⟩
      rcases hout with ⟨-, rfl, hurl⟩ | ⟨rfl, c, hc, hurl⟩
      · refine ⟨rfl, s, ?_, hurl⟩
        rw [hsplit]
        exact List.mem_append_right before List.mem_cons_self
      · rw [hset] at hc
        exact ⟨rfl, c, hmem c hc, hurl⟩

/-! ### The loop over the records -/

theorem get_naptr_takes {r k : ℕ} {nl : List (Option naptr_rdata)} (h : get_naptr r nl = some k) :
    ∃ n before after, nl[k]? = some (some n) ∧
      Least naptr_rdata.orderKey naptr_rdata.prefKey nl.reduceOption n ∧
      nl.reduceOption = before ++ n :: after ∧ (nl.set k none).reduceOption = before ++ after :=
  select_takes (fun n => n.keys_lt.1) (fun n => n.keys_lt.2) h

theorem naptrLoop_turn {inner : Octets → Handle → Option (Int × Handle)} {turns k : ℕ}
    {nl : List (Option naptr_rdata)} {n : naptr_rdata} {ret : Int} {st : Handle}
    (hk : get_naptr (rand st.calls) nl = some k) (hslot : nl[k]? = some (some n)) :
    naptrLoop D curl rand inner (turns + 1) nl ret st =
      if n.flag = flagS then
        if D.srv n.repl = [] then
          naptrLoop D curl rand inner turns (nl.set k none) ret ⟨st.calls + 1, st.url⟩
        else
          match srvLoop curl rand ((D.srv n.repl).length + 1) (D.srv n.repl) ret
            ⟨st.calls + 1, st.url⟩ with
          | none => none
          | some (ret, st) =>
            if ret = 0 then some (ret, st)
            else naptrLoop D curl rand inner turns (nl.set k none) ret st
      else if n.flag = flagU then
        if curl then
          naptrLoop D curl rand inner turns (nl.set k none) 0
            (setUrl curl n.repl ⟨st.calls + 1, st.url⟩)
        else naptrLoop D curl rand inner turns (nl.set k none) ret ⟨st.calls + 1, st.url⟩
      else if n.flag = flagP then
        match inner n.repl ⟨st.calls + 1, st.url⟩ with
        | none => none
        | some (r, st) =>
          if r = 0 then some (ret, st)
          else naptrLoop D curl rand inner turns (nl.set k none) ret st
      else naptrLoop D curl rand inner turns (nl.set k none) ret ⟨st.calls + 1, st.url⟩ := by
  rw [naptrLoop, hk]
  dsimp only
  rw [hslot]
  rfl

/-- The records that are left hold every stopper. -/
structure Left (D : Dns) (hostname : Octets) (rest : List naptr_rdata) : Prop where
  sub : ∀ n ∈ rest, n ∈ records D hostname
  stoppers : ∀ s, Stopper D hostname s → s ∈ rest

theorem Left.erase {hostname : Octets} {n : naptr_rdata} {before after : List naptr_rdata}
    (h : Left D hostname (before ++ n :: after)) (hn : ¬Stopper D hostname n) :
    Left D hostname (before ++ after) where
  sub c hc := h.sub c (mem_of_mem_erase hc)
  stoppers s hs := by
    refine mem_erase_of_ne (h.stoppers s hs) ?_
    rintro rfl
    exact hn hs

theorem Left.not_stopped {hostname : Octets} {n : naptr_rdata} {rest : List naptr_rdata}
    (h : Left D hostname rest) (hn : Least naptr_rdata.orderKey naptr_rdata.prefKey rest n) :
    ¬Stopped D hostname n := by
  rintro ⟨s, hs, hsn⟩
  exact hn.not_before (h.stoppers s hs) hsn

theorem Sound.best {hostname : Octets} (h : Sound D curl hostname)
    (hlocal : local_lookup_post D hostname = none) {n : naptr_rdata}
    (hn : n ∈ records D hostname) (hu : UsableRecord D n) (hstop : ¬Stopped D hostname n) :
    Best D hostname n :=
  (h.alone hlocal n hn hu).resolve_right hstop

theorem Sound.visits {hostname : Octets} (h : Sound D curl hostname)
    (hlocal : local_lookup_post D hostname = none) {n : naptr_rdata}
    (hn : n ∈ records D hostname) (hflag : n.flag = flagP) (hstop : ¬Stopped D hostname n) :
    Visits D n.repl hostname ∧ ¬UsableRecord D n ∧ ¬Usable D n.repl := by
  have hnot : ¬UsableRecord D n := by
    intro hu
    rcases h.alike hlocal n (h.best hlocal hn hu hstop) with hflag' | ⟨hflag', -⟩
    · rw [hflag'] at hflag
      exact absurd hflag (by decide)
    · rw [hflag'] at hflag
      exact absurd hflag (by decide)
  refine ⟨⟨hlocal, n, hn, hflag, rfl, hstop⟩, hnot, ?_⟩
  intro hu
  exact hnot (Or.inr (Or.inr ⟨hflag, hu⟩))

/-- The servers of a most preferred record leave the URL of one of the most preferred of them. -/
theorem Sound.servers_preferred {hostname : Octets} (h : Sound D curl hostname)
    (hlocal : local_lookup_post D hostname = none) {n : naptr_rdata} (hn : Best D hostname n)
    (hflag : n.flag = flagS) (hs : servers D n.repl ≠ []) (rand : ℕ → ℕ) (ret : Int)
    (st : Handle) :
    ∃ st' url, srvLoop curl rand ((D.srv n.repl).length + 1) (D.srv n.repl) ret st =
      some (0, st') ∧ st'.url = some url ∧ Preferred D hostname url := by
  obtain ⟨rfl, -⟩ := h.able (hn.usable.usable hn.mem)
  have halike : ∀ s ∈ servers D n.repl, ∀ s' ∈ servers D n.repl,
      s.priorityKey = s'.priorityKey ∧ s.weightKey = s'.weightKey := by
    rcases h.alike hlocal n hn with hflag' | ⟨-, halike⟩
    · rw [hflag] at hflag'
      exact absurd hflag' (by decide)
    · exact halike
  have hturns := (D.srv n.repl).reduceOption_length_le
  obtain ⟨ret', st', hrun, hout⟩ := srvLoop_alike rand ret st
    (Nat.lt_succ_of_le hturns) halike
  rcases hout with ⟨hnil, -⟩ | ⟨rfl, s, hmem, hurl⟩
  · exact absurd hnil hs
  · refine ⟨st', _, hrun, hurl, .server hlocal hn hflag ⟨hmem, ?_, ?_⟩⟩
    · intro s' hs'
      exact le_of_eq (halike s hmem s' hs').1
    · intro s' hs' _
      exact le_of_eq (halike s hmem s' hs').2

/-- What the other names on the way come to: nothing. -/
def InnerFails (D : Dns) (inner : Octets → Handle → Option (Int × Handle)) (hostname : Octets) :
    Prop :=
  ∀ name, Visits D name hostname → ¬Usable D name → ∀ st,
    ∃ st', inner name st = some (-1, st') ∧ st'.url = st.url

/-- A record that is tried is passed over when it is of no use; otherwise it leaves a preferred URL,
and the loop ends or goes on. -/
theorem naptrLoop_cases {inner : Octets → Handle → Option (Int × Handle)} {hostname : Octets}
    (h : Sound D curl hostname) (hlocal : local_lookup_post D hostname = none)
    (hinner : InnerFails D inner hostname) (rand : ℕ → ℕ) {turns k : ℕ}
    {nl : List (Option naptr_rdata)} {n : naptr_rdata} (ret : Int) (st : Handle)
    (hk : get_naptr (rand st.calls) nl = some k) (hslot : nl[k]? = some (some n))
    (hmem : n ∈ records D hostname) (hstop : ¬Stopped D hostname n) :
    let run := naptrLoop D curl rand inner (turns + 1) nl ret st
    let rest := naptrLoop D curl rand inner turns (nl.set k none)
    (¬UsableRecord D n ∧ ∃ st₁ : Handle, st₁.url = st.url ∧
      (¬Stopper D hostname n ∧ run = rest ret st₁ ∨
        run = if ret = 0 then some (ret, st₁) else rest ret st₁)) ∨
    (∃ st₁ url, run = some (0, st₁) ∧ st₁.url = some url ∧ Preferred D hostname url) ∨
    (¬Stopper D hostname n ∧
      ∃ st₁ url, run = rest 0 st₁ ∧ st₁.url = some url ∧ Preferred D hostname url) := by
  intro run rest
  have hrun : run = _ := naptrLoop_turn hk hslot
  have hnotS : n.flag ≠ flagS → ¬Stopper D hostname n := fun hflag hs => hflag hs.2.1
  by_cases hS : n.flag = flagS
  · rw [if_pos hS] at hrun
    have hnot : servers D n.repl = [] → ¬UsableRecord D n := by
      rintro hs (hflag | ⟨-, hne⟩ | ⟨hflag, -⟩)
      · rw [hS] at hflag
        exact absurd hflag (by decide)
      · exact hne hs
      · rw [hS] at hflag
        exact absurd hflag (by decide)
    by_cases hsl : D.srv n.repl = []
    · rw [if_pos hsl] at hrun
      have hs : servers D n.repl = [] := by
        unfold servers
        rw [hsl]
        rfl
      exact Or.inl ⟨hnot hs, ⟨st.calls + 1, st.url⟩, rfl,
        Or.inl ⟨fun hstopper => hstopper.2.2.1 hsl, hrun⟩⟩
    · rw [if_neg hsl] at hrun
      by_cases hs : servers D n.repl = []
      · obtain ⟨st₁, hsrv, hsame⟩ := srvLoop_nil curl rand (D.srv n.repl).length ret
          ⟨st.calls + 1, st.url⟩ hs
        rw [hsrv] at hrun
        exact Or.inl ⟨hnot hs, st₁, hsame, Or.inr hrun⟩
      · have hbest := h.best hlocal hmem (Or.inr (Or.inl ⟨hS, hs⟩)) hstop
        obtain ⟨st₁, url, hsrv, hurl, hpref⟩ :=
          h.servers_preferred hlocal hbest hS hs rand ret ⟨st.calls + 1, st.url⟩
        rw [hsrv] at hrun
        exact Or.inr (Or.inl ⟨st₁, url, hrun, hurl, hpref⟩)
  · rw [if_neg hS] at hrun
    by_cases hU : n.flag = flagU
    · have hbest := h.best hlocal hmem (Or.inl hU) hstop
      obtain ⟨rfl, -⟩ := h.able (hbest.usable.usable hmem)
      rw [if_pos hU, if_pos rfl] at hrun
      exact Or.inr (Or.inr ⟨hnotS hS, _, _, hrun, rfl, .uri hlocal hbest hU⟩)
    · rw [if_neg hU] at hrun
      by_cases hP : n.flag = flagP
      · obtain ⟨hvisits, hu, hnot⟩ := h.visits hlocal hmem hP hstop
        obtain ⟨st₁, hfails, hsame⟩ := hinner n.repl hvisits hnot ⟨st.calls + 1, st.url⟩
        rw [if_pos hP, hfails] at hrun
        exact Or.inl ⟨hu, st₁, hsame, Or.inl ⟨hnotS hS, hrun⟩⟩
      · rw [if_neg hP] at hrun
        refine Or.inl ⟨?_, ⟨st.calls + 1, st.url⟩, rfl, Or.inl ⟨hnotS hS, hrun⟩⟩
        rintro (hflag | ⟨hflag, -⟩ | ⟨hflag, -⟩)
        · exact hU hflag
        · exact hS hflag
        · exact hP hflag

/-- After a preferred URL was set, only preferred ones are. -/
theorem naptrLoop_found {inner : Octets → Handle → Option (Int × Handle)} {hostname : Octets}
    (h : Sound D curl hostname) (hlocal : local_lookup_post D hostname = none)
    (hinner : InnerFails D inner hostname) (rand : ℕ → ℕ) {turns : ℕ}
    {nl : List (Option naptr_rdata)} (st : Handle) {url : Octets}
    (hleft : Left D hostname nl.reduceOption) (hturns : nl.reduceOption.length < turns)
    (hurl : st.url = some url) (hpref : Preferred D hostname url) :
    ∃ st' url', naptrLoop D curl rand inner turns nl 0 st = some (0, st') ∧
      st'.url = some url' ∧ Preferred D hostname url' := by
  induction turns generalizing nl st url with
  | zero => omega
  | succ turns ih =>
    cases hk : get_naptr (rand st.calls) nl with
    | none =>
      rw [naptrLoop, hk]
      exact ⟨_, url, rfl, hurl, hpref⟩
    | some k =>
      obtain ⟨n, before, after, hslot, hleast, hsplit, hset⟩ := get_naptr_takes hk
      have hlength := length_set_lt hsplit hset hturns
      have hrest : ¬Stopper D hostname n → Left D hostname (nl.set k none).reduceOption := by
        intro hn
        rw [hsplit] at hleft
        rw [hset]
        exact hleft.erase hn
      rcases naptrLoop_cases h hlocal hinner rand 0 st hk hslot
        (hleft.sub n hleast.mem) (hleft.not_stopped hleast) with
        ⟨-, st₁, hsame, ⟨hn, hrun⟩ | hrun⟩ | ⟨st₁, url₁, hrun, hurl₁, hpref₁⟩ |
          ⟨hn, st₁, url₁, hrun, hurl₁, hpref₁⟩
      · rw [hrun]
        exact ih st₁ (hrest hn) hlength (hsame.trans hurl) hpref
      · exact ⟨st₁, url, hrun, hsame.trans hurl, hpref⟩
      · exact ⟨st₁, url₁, hrun, hurl₁, hpref₁⟩
      · rw [hrun]
        exact ih st₁ (hrest hn) hlength hurl₁ hpref₁

/-- What is left of the call: no URL, where there is none, or a preferred one. -/
def Outcome (D : Dns) (hostname : Octets) (st : Handle) (ret : Int) (st' : Handle) : Prop :=
  ret = -1 ∧ st'.url = st.url ∧ ¬Usable D hostname ∨
    ret = 0 ∧ ∃ url, st'.url = some url ∧ Preferred D hostname url

/-- Before a usable record was tried, the most preferred ones are left. -/
structure Searching (D : Dns) (hostname : Octets) (rest : List naptr_rdata) : Prop where
  left : Left D hostname rest
  best : ∀ b, Best D hostname b → b ∈ rest
  steady : Usable D hostname →
    Steady naptr_rdata.orderKey naptr_rdata.prefKey (Best D hostname) rest

theorem Searching.erase {hostname : Octets} {n : naptr_rdata} {before after : List naptr_rdata}
    (h : Searching D hostname (before ++ n :: after))
    (hn : Least naptr_rdata.orderKey naptr_rdata.prefKey (before ++ n :: after) n)
    (hu : ¬UsableRecord D n) : Searching D hostname (before ++ after) where
  left := by
    apply h.left.erase
    rintro ⟨-, -, -, b, hb, hbest | hbn⟩
    · exact hu hbest.usable
    · exact hn.not_before (h.best b hb) hbn
  best b hb := by
    refine mem_erase_of_ne (h.best b hb) ?_
    rintro rfl
    exact hu hb.usable
  steady husable := (h.steady husable).erase (not_best_of_not_usable hu)

theorem naptrLoop_searching {inner : Octets → Handle → Option (Int × Handle)}
    {hostname : Octets} (h : Sound D curl hostname)
    (hlocal : local_lookup_post D hostname = none) (hinner : InnerFails D inner hostname)
    (rand : ℕ → ℕ) {turns : ℕ} {nl : List (Option naptr_rdata)} (st : Handle)
    (hleft : Searching D hostname nl.reduceOption) (hturns : nl.reduceOption.length < turns) :
    ∃ ret st', naptrLoop D curl rand inner turns nl (-1) st = some (ret, st') ∧
      Outcome D hostname st ret st' := by
  induction turns generalizing nl st with
  | zero => omega
  | succ turns ih =>
    cases hk : get_naptr (rand st.calls) nl with
    | none =>
      rw [naptrLoop, hk]
      refine ⟨-1, _, rfl, Or.inl ⟨rfl, rfl, ?_⟩⟩
      intro husable
      have hfirst := (hleft.steady husable).leastFirst
      have hne : nl.reduceOption ≠ [] := by
        obtain ⟨before, a, after, hsplit, -⟩ := hfirst
        rw [hsplit]
        exact List.append_ne_nil_of_right_ne_nil before (List.cons_ne_nil a after)
      exact (select_ne_none_iff (fun n => n.keys_lt.1) (fun n => n.keys_lt.2) hne).mpr hfirst _ hk
    | some k =>
      obtain ⟨n, before, after, hslot, hleast, hsplit, hset⟩ := get_naptr_takes hk
      have hlength := length_set_lt hsplit hset hturns
      have hrest : ¬UsableRecord D n → ∀ st₁ : Handle, st₁.url = st.url →
          ∃ ret st', naptrLoop D curl rand inner turns (nl.set k none) (-1) st₁ =
            some (ret, st') ∧ Outcome D hostname st ret st' := by
        intro hu st₁ hsame
        have hnext : Searching D hostname (nl.set k none).reduceOption := by
          rw [hsplit] at hleft hleast
          rw [hset]
          exact hleft.erase hleast hu
        obtain ⟨ret, st', hrun, hout⟩ := ih st₁ hnext hlength
        refine ⟨ret, st', hrun, ?_⟩
        unfold Outcome at hout ⊢
        rw [hsame] at hout
        exact hout
      rcases naptrLoop_cases h hlocal hinner rand (-1) st hk hslot
        (hleft.left.sub n hleast.mem) (hleft.left.not_stopped hleast) with
        ⟨hu, st₁, hsame, ⟨-, hrun⟩ | hrun⟩ | ⟨st₁, url, hrun, hurl, hpref⟩ |
          ⟨hn, st₁, url, hrun, hurl, hpref⟩
      · rw [hrun]
        exact hrest hu st₁ hsame
      · rw [hrun, if_neg (by decide)]
        exact hrest hu st₁ hsame
      · exact ⟨0, st₁, hrun, Or.inr ⟨rfl, url, hurl, hpref⟩⟩
      · have hnext : Left D hostname (nl.set k none).reduceOption := by
          have hleft := hleft.left
          rw [hsplit] at hleft
          rw [hset]
          exact hleft.erase hn
        obtain ⟨st', url', hfound, hurl', hpref'⟩ :=
          naptrLoop_found h hlocal hinner rand st₁ hnext hlength hurl hpref
        exact ⟨0, st', hrun.trans hfound, Or.inr ⟨rfl, url', hurl', hpref'⟩⟩

/-! ### The call -/

theorem exists_enough {α : Type} {p : α → ℕ → Prop} {l : List α}
    (h : ∀ a ∈ l, ∃ enough, ∀ n, enough ≤ n → p a n) :
    ∃ enough, ∀ a ∈ l, ∀ n, enough ≤ n → p a n := by
  induction l with
  | nil => exact ⟨0, fun a ha => nomatch ha⟩
  | cons a as ih =>
    obtain ⟨m, hm⟩ := h a List.mem_cons_self
    obtain ⟨k, hk⟩ := ih fun b hb => h b (List.mem_cons_of_mem a hb)
    refine ⟨m + k, ?_⟩
    intro b hb n hn
    rcases List.mem_cons.mp hb with rfl | hb
    · exact hm n (by omega)
    · exact hk b hb n (by omega)

/-- Fuel that is enough for each of the names on the way is enough for all of them. -/
theorem exists_innerFails {hostname : Octets}
    (h : ∀ name, Visits D name hostname → ¬Usable D name → ∃ enough, ∀ depth, enough ≤ depth →
      ∀ rand st, ∃ st', resolve_post D curl rand depth name st = some (-1, st') ∧
        st'.url = st.url) :
    ∃ enough, ∀ depth, enough ≤ depth → ∀ rand,
      InnerFails D (resolve_post D curl rand depth) hostname := by
  obtain ⟨enough, henough⟩ : ∃ enough, ∀ n ∈ records D hostname, ∀ depth, enough ≤ depth →
      Visits D n.repl hostname → ¬Usable D n.repl → ∀ rand st, ∃ st',
        resolve_post D curl rand depth n.repl st = some (-1, st') ∧ st'.url = st.url := by
    apply exists_enough
    intro n _
    by_cases hn : Visits D n.repl hostname ∧ ¬Usable D n.repl
    · obtain ⟨enough, hrun⟩ := h n.repl hn.1 hn.2
      exact ⟨enough, fun depth hdepth _ _ => hrun depth hdepth⟩
    · refine ⟨0, ?_⟩
      intro depth _ hvisits hnot
      exact absurd ⟨hvisits, hnot⟩ hn
  refine ⟨enough, ?_⟩
  intro depth hdepth rand name hvisits hnot st
  have hrecord := hvisits
  obtain ⟨-, p, hp, -, rfl, -⟩ := hrecord
  exact henough p hp depth hdepth hvisits hnot rand st

theorem resolve_post_outcome {hostname : Octets} (hacc : Acc (Visits D) hostname)
    (h : Sound D curl hostname) :
    ∃ enough, ∀ depth, enough ≤ depth → ∀ rand st, ∃ ret st',
      resolve_post D curl rand depth hostname st = some (ret, st') ∧
        Outcome D hostname st ret st' := by
  induction hacc with
  | intro hostname hacc ih =>
    obtain ⟨enough, henough⟩ : ∃ enough, ∀ depth, enough ≤ depth → ∀ rand,
        InnerFails D (resolve_post D curl rand depth) hostname := by
      apply exists_innerFails
      intro name hvisits hnot
      obtain ⟨enough, hrun⟩ := ih name hvisits (sound_of_not_usable hnot (hacc _ hvisits))
      refine ⟨enough, ?_⟩
      intro depth hdepth rand st
      obtain ⟨ret, st', hret, ⟨rfl, hurl, -⟩ | ⟨-, url, -, hpref⟩⟩ := hrun depth hdepth rand st
      · exact ⟨st', hret, hurl⟩
      · exact absurd hpref.usable hnot
    refine ⟨enough + 1, ?_⟩
    intro depth hdepth rand st
    obtain ⟨depth, rfl⟩ : ∃ d, depth = d + 1 := ⟨depth - 1, by omega⟩
    rw [resolve_post]
    by_cases hinit : D.res_init = true
    · rw [if_pos hinit]
      cases hlocal : local_lookup_post D hostname with
      | some url =>
        obtain ⟨rfl, -⟩ := h.able (.host hlocal)
        exact ⟨0, _, rfl, Or.inr ⟨rfl, url, rfl, .host hlocal⟩⟩
      | none =>
        dsimp only
        by_cases hnl : D.naptr hostname = []
        · rw [if_pos hnl]
          refine ⟨-1, st, rfl, Or.inl ⟨rfl, rfl, ?_⟩⟩
          intro husable
          obtain ⟨before, a, after, hsplit, -⟩ := (h.steady hlocal husable).first
          unfold records at hsplit
          rw [hnl] at hsplit
          simp at hsplit
        · rw [if_neg hnl]
          have hinner := henough depth (by omega) rand
          have hstart : Searching D hostname (D.naptr hostname).reduceOption :=
            ⟨⟨fun n hn => hn, fun s hs => hs.1⟩, fun b hb => hb.mem, h.steady hlocal⟩
          have hlength := (D.naptr hostname).reduceOption_length_le
          exact naptrLoop_searching h hlocal hinner rand st hstart (Nat.lt_succ_of_le hlength)
    · rw [if_neg hinit]
      refine ⟨-1, st, rfl, Or.inl ⟨rfl, rfl, ?_⟩⟩
      intro husable
      exact hinit (h.able husable).2

/-- Where the content of the DNS keeps out of the code's defects, the call resolves the name. -/
theorem resolve_post_resolves (D : Dns) (curl : Bool) (hostname : Octets)
    (h : Sound D curl hostname) : Resolves D curl hostname := by
  obtain ⟨enough, hrun⟩ := resolve_post_outcome h.grounded h
  refine ⟨enough, ?_⟩
  intro depth hdepth rand
  obtain ⟨ret, st, hret, hout⟩ := hrun depth hdepth rand ⟨0, none⟩
  refine ⟨ret, st, hret, ?_⟩
  rcases hout with ⟨rfl, hurl, hnot⟩ | ⟨rfl, url, hurl, hpref⟩
  · have hnone : st.url = none := hurl
    refine ⟨?_, ?_, fun _ => hnot⟩
    · rw [hnone]
      decide
    · intro url heq
      rw [hnone] at heq
      cases heq
  · refine ⟨?_, ?_, ?_⟩
    · rw [hurl, Option.isSome_some]
      exact iff_of_true rfl rfl
    · intro url' heq
      rw [hurl] at heq
      cases heq
      exact hpref
    · intro heq
      rw [hurl] at heq
      cases heq

/-- One record, whose server has one address. -/
def oneServer : Dns where
  res_init := true
  host_list := []
  naptr _ := [some ⟨10, 10, [flagS], [], [], []⟩]
  srv _ := [some ⟨10, 5, 8080, [110, 115]⟩]

theorem oneServer_resolves : Resolves oneServer true [110] := by
  apply resolve_post_resolves
  have hlocal : ∀ name, local_lookup_post oneServer name = none := fun _ => rfl
  have hrecords : ∀ name, records oneServer name = [⟨10, 10, [flagS], [], [], []⟩] := fun _ => rfl
  have hservers : ∀ name, servers oneServer name = [⟨10, 5, 8080, [110, 115]⟩] := fun _ => rfl
  have husable : UsableRecord oneServer ⟨10, 10, [flagS], [], [], []⟩ :=
    Or.inr (Or.inl ⟨rfl, by rw [hservers]; exact List.cons_ne_nil _ _⟩)
  have hbest : Best oneServer [110] ⟨10, 10, [flagS], [], [], []⟩ := by
    refine ⟨by rw [hrecords]; exact List.mem_singleton_self _, husable, ?_⟩
    intro m hm _
    rw [hrecords, List.mem_singleton] at hm
    rw [hm]
    unfold Precedes Before
    omega
  constructor
  · intro _
    exact ⟨rfl, rfl⟩
  · intro _ n hn
    have hmem := hn.mem
    rw [hrecords, List.mem_singleton] at hmem
    right
    refine ⟨by rw [hmem]; rfl, ?_⟩
    intro s hs s' hs'
    rw [hservers, List.mem_singleton] at hs hs'
    rw [hs, hs']
    exact ⟨rfl, rfl⟩
  · intro _ m hm _
    rw [hrecords, List.mem_singleton] at hm
    rw [hm]
    exact Or.inl hbest
  · intro _ _
    constructor
    · intro n b _ _ m hsub
      rw [hrecords] at hsub
      have hlength := hsub.length_le
      simp at hlength
    · exact ⟨[], _, [], hrecords _, hbest, fun m hm => nomatch hm⟩
  · constructor
    rintro name ⟨-, p, hp, hflag, -⟩
    rw [hrecords, List.mem_singleton] at hp
    rw [hp] at hflag
    exact absurd hflag (by decide)

/-- One record, whose server has two addresses. -/
def twoServers : Dns where
  res_init := true
  host_list := []
  naptr _ := [some ⟨10, 10, [flagS], [], [], []⟩]
  srv _ := [some ⟨10, 5, 8080, [110]⟩, some ⟨20, 5, 8080, [115]⟩]

/-- The URL of the less preferred address is left. -/
theorem twoServers_not_resolves : ¬Resolves twoServers true [110] := by
  rintro ⟨enough, h⟩
  obtain ⟨ret, st, hrun, -, hpref, -⟩ := h (enough + 1) (Nat.le_succ enough) fun _ => 0
  have hresult : resolve_post twoServers true (fun _ => 0) (enough + 1) [110] ⟨0, none⟩ =
      some (0, ⟨4, some (httpUrl [115] 8080)⟩) := rfl
  rw [hresult] at hrun
  cases hrun
  have hrecords : ∀ n ∈ records twoServers [110], n.flag = flagS := by
    intro n hn
    rw [show records twoServers [110] = [⟨10, 10, [flagS], [], [], []⟩] from rfl,
      List.mem_singleton] at hn
    rw [hn]
    rfl
  generalize hleft : httpUrl [115] 8080 = url at hpref
  cases hpref url rfl with
  | host hlocal => cases hlocal
  | uri _ hn hflag => exact absurd ((hrecords _ hn.mem).symm.trans hflag) (by decide)
  | @server _ n s _ _ _ hs =>
    have hmem : s ∈ [⟨10, 5, 8080, [110]⟩, ⟨20, 5, 8080, [115]⟩] := hs.mem
    have hle := hs.primary_le ⟨10, 5, 8080, [110]⟩ List.mem_cons_self
    rcases List.mem_cons.mp hmem with rfl | hmem
    · exact absurd hleft (by decide)
    · rw [List.mem_singleton.mp hmem] at hle
      exact absurd hle (by decide)
  | via _ hn hflag _ => exact absurd ((hrecords _ hn.mem).symm.trans hflag) (by decide)

end Lorawan.Backend
