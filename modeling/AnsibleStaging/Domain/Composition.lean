import AnsibleStaging.Text.CodePointMap

/-! Canonical composition. Characters that mean the same as a row of others are taken apart, marks are put in
    order of their class, and pairs that have a character of their own are put together again, so that equal
    names get equal spellings. The tables cover what the mapping leaves in a name. -/

namespace AnsibleStaging
namespace Domain

structure Composite where
  first : Char
  second : Char
  whole : Char

def composites : Array Composite := (Table.entries
  ["2p.lc.68P2t.lc.6gP2x.lc.6kP32.lc.e1P33.lc.6qP39.lc.6xP3b.lc.60xP3d.lc.643P6a.lc.61zP6i.lc.62pP6s.lc.637P",
    "70.lc.d8P77.lc.629P7n.lc.5xxP99.lc.5zlPbl.lc.63hPc0.lc.63vPq9.lc.67kPqd.lc.67mPqf.lc.67oPqh.lc.67qP",
    "qn.lc.67sPqt.lc.67uPqx.lc.67wPqy.lc.6aaPqz.lc.6aqPtx.lc.uoPu0.lc.v1P64g.lc.64iP64h.lc.64jP64w.lc.64yP",
    "64x.lc.64zP65c.lc.65eP65d.lc.65fP65s.lc.65uP65t.lc.65vP668.lc.66aP669.lc.66bP66o.lc.66qP66p.lc.66rP",
    "674.lc.676P675.lc.677P2p.ld.69P2r.ld.7bP2t.ld.6hP2v.ld.dxP2x.ld.6lP2z.ld.5ypP30.ld.8qP31.ld.5z3P32.ld.90P",
    "33.ld.6rP34.ld.5zpP36.ld.9hP37.ld.9nP39.ld.6yP3b.ld.60zP3d.ld.71P3e.ld.aiP6a.ld.61xP6d.ld.e3P6e.ld.e5P",
    "6f.ld.5xlP6i.ld.62nP6n.ld.5ynP6s.ld.635P6t.ld.5zhP6w.ld.e7P70.ld.d4P77.ld.627P7n.ld.5xzP99.ld.5znP",
    "a1.ld.60pPbl.ld.63fPc0.ld.63tPq9.ld.q4Pqd.ld.q5Pqf.ld.q6Pqh.ld.q7Pqn.ld.r0Pqt.ld.r1Pqx.ld.r2Pqy.ld.pcP",
    "qz.ld.q8Ptv.ld.urPu2.ld.v0P64g.ld.64kP64h.ld.64lP64w.ld.650P64x.ld.651P65c.ld.65gP65d.ld.65hP65s.ld.65wP",
    "65t.ld.65xP668.ld.66cP669.ld.66dP66o.ld.66sP66p.ld.66tP674.ld.678P675.ld.679P2p.le.6aP2r.le.7dP2t.le.6iP",
    "2v.le.7xP2w.le.85P2x.le.6mP2y.le.8lP33.le.6sP37.le.9pP39.le.6zP3b.le.adP3d.le.afP3e.le.61dP61t.le.625P",
    "62h.le.62vP631.le.63dP2p.lf.6bP2t.lf.62lP2x.lf.89P32.lf.6pP33.lf.6tP39.lf.a1P3a.lf.60tP3d.lf.649P",
    "6a.lf.623P6i.lf.62tP6s.lf.63bP77.lf.62dPbl.lf.63lPc0.lf.63zP2p.lg.75P2t.lg.7nP2v.lg.5y9P2x.lg.8bP33.lg.99P",
    "39.lg.a3P3d.lg.fnP6c.lg.dbP6e.lg.dfP6t.lg.fhP6u.lg.ffP70.lg.d2Pdn.lg.dpPfb.lg.ddPfj.lg.flPq9.lg.69dP",
    "qh.lg.6a9Pqt.lg.6apPu0.lg.yrPub.lg.z3P5yv.lg.5yxP5zv.lg.5zxP2p.li.77P2t.li.7pP2v.li.7zP2x.li.8dP33.li.9bP",
    "39.li.a5Pfd.li.5y5Pq9.li.69cPqh.li.6a8Pqt.li.6aoPts.li.y9Ptx.li.yfPty.li.xuPu0.li.u1Pub.li.v2P61t.li.62fP",
    "2p.lj.fbP2q.lj.5xfP2r.lj.7fP2s.lj.5xnP2t.lj.7rP2u.lj.5y7P2v.lj.81P2w.lj.5ybP31.lj.5z5P32.lj.5z9P33.lj.fjP",
    "34.lj.5zrP36.lj.5ztP37.lj.601P38.lj.60bP3b.lj.613P3c.lj.617P3d.lj.61bP3e.lj.akP9n.lj.605P9t.lj.607P",
    "603.lj.609P1fpu.lj.1fplP1fq2.lj.1fqcP2p.lk.6cP2t.lk.6jP2w.lk.5yfP2x.lk.6nP33.lk.6uP38.lk.61jP39.lk.70P",
    "3b.lk.611P3c.lk.619P3d.lk.73P6t.lk.5zjPa3.lk.60rPqh.lk.qyPqt.lk.qzPts.lk.ybPtx.lk.upPty.lk.ylPtz.lk.ynP",
    "u0.lk.ytPu6.lk.yvPub.lk.z5Puf.lk.z9Puj.lk.zdPul.lk.z1Puu.lk.uvPyh.lk.yjPyx.lk.yzP2p.ll.61vP2t.ll.62jP",
    "2x.ll.62xP33.ll.633P39.ll.63rP3d.ll.647P6a.ll.621P6i.ll.62rP6s.ll.639P77.ll.62bPbl.ll.63jPc0.ll.63xP",
    "2p.lm.6dP39.lm.a7P3b.lm.61kP3d.lm.61lP33.ln.9dP39.ln.a9Pub.ln.z7P2p.lo.cuP2r.lo.7hP2s.lo.7jP2t.lo.7vP",
    "2v.lo.djP2w.lo.f3P2x.lo.cwP2y.lo.dsP2z.lo.dlP30.lo.8uP32.lo.94P33.lo.cyP36.lo.9lP37.lo.9tP38.lo.9xP",
    "39.lo.d0P3e.lo.amP70.lo.d6Pia.lo.drP2p.lr.e9P2t.lr.edP2x.lr.ehP33.lr.elP36.lr.epP39.lr.etPvp.lr.vrP",
    "2p.lt.ebP2t.lt.efP2x.lt.ejP33.lt.enP36.lt.erP39.lt.evPq9.lv.64gPqd.lv.64wPqf.lv.65cPqh.lv.65sPqn.lv.668P",
    "qp.lv.6asPqt.lv.66oPqx.lv.674Pq9.lw.64hPqd.lw.64xPqf.lw.65dPqh.lw.65tPqn.lw.669Pqp.lw.6atPqt.lw.66pP",
    "qx.lw.675P33.m3.blP39.m3.c0P2p.mb.61tP2q.mb.5xhP2s.mb.5xpP2t.mb.62hP2w.mb.5ydP2x.mb.62zP2z.mb.5yrP",
    "30.mb.5yvP31.mb.5z7P32.mb.5zbP33.mb.631P36.mb.5zvP37.mb.603P38.mb.60dP39.mb.63pP3a.mb.60vP3b.mb.615P",
    "3d.mb.645P3e.mb.61fPbl.mb.63nPc0.mb.641P39.mc.60jP2p.md.5xdP37.me.exP38.me.ezP2r.mf.6fP2s.mf.5xtP2t.mf.fdP",
    "2v.mf.83P2w.mf.5yhP2z.mf.8nP30.mf.8sP32.mf.92P36.mf.9jP37.mf.9rP38.mf.9vP2p.mg.79P2t.mg.7tP2x.mg.8fP",
    "33.mg.dnP39.mg.abP2s.ml.5xvP2t.ml.5y1P30.ml.5z1P32.ml.5zfP38.ml.60hP39.ml.60nP2w.mm.5yjP2t.mo.5y3P",
    "2x.mo.5ylP39.mo.60lP2q.mp.5xjP2s.mp.5xrP2w.mp.61iP2z.mp.5ytP30.mp.5yzP32.mp.5zdP36.mp.5zzP38.mp.60fP",
    "3e.mp.61hP1o.mw.6suP1p.mw.6sgP1q.mw.6svP6mo.mw.6myP6mq.mw.6mzP6ms.mw.6niP6og.mw.6odP6oi.mw.6ofP6ok.mw.6oeP",
    "6pv.mw.6pwP6q0.mw.6q1P6q3.mw.6q4P6qr.mw.6qsP6qt.mw.6quP6rg.mw.6rlP6rn.mw.6roP6rp.mw.6rrP6rs.mw.6rtP",
    "6rx.mw.6stP6sh.mw.6siP6sk.mw.6swP6sl.mw.6sxP6sy.mw.6t0P6sz.mw.6t1P6t2.mw.6t4P6t3.mw.6t5P6t6.mw.6tcP",
    "6t7.mw.6tdP6t8.mw.6w0P6t9.mw.6w1P6te.mw.6tgP6tf.mw.6thP6ti.mw.6tkP6tj.mw.6tlP6tt.mw.6w2P6tu.mw.6w3P",
    "6ua.mw.6ukP6ug.mw.6ulP6uh.mw.6umP6uj.mw.6unP6uq.mw.6waP6ur.mw.6wbP6us.mw.6wcP6ut.mw.6wdPq9.n6.69iP",
    "qf.n6.69yPqh.n6.6aePqt.n6.6auPqx.n6.6baPqy.n6.6afPqz.n6.6avP64g.n6.64mP64h.n6.64nP65c.n6.65iP65d.n6.65jP",
    "65s.n6.65yP65t.n6.65zP66o.n6.66uP66p.n6.66vP674.n6.67aP675.n6.67bP17r.18z.17mP17r.190.17nP18o.190.17oP",
    "18q.190.17qP1c1.190.1c2P1ci.190.1cjP1cl.190.1c0P17r.191.17pP1t4.1to.1t5P1tc.1to.1tdP1tf.1to.1tgP",
    "1xj.1xa.1xnP1xj.1xz.1xoP287.27y.28bP287.28m.288P287.28n.28cP2bq.2bi.2buP2br.2bi.2bvP2aa.2c7.2acP",
    "2bq.2c7.2bwP2fa.2fq.2fcP2iu.2iq.2iyP2in.2j9.2ioP2iu.2j9.2ivP2iy.2j9.2izP2iu.2ja.2iwP2me.2m6.2miP",
    "2mf.2m6.2mjP2me.2mv.2mkP2qh.2q2.2qiP2qk.2q2.2qlP2qh.2q7.2qkP2qh.2qn.2qmP36t.372.36uP5c5.5dh.5c6P",
    "5c7.5dh.5c8P5c9.5dh.5caP5cb.5dh.5ccP5cd.5dh.5ceP5ch.5dh.5ciP5dm.5dh.5dnP5do.5dh.5dpP5dq.5dh.5dsP",
    "5dr.5dh.5dtP5du.5dh.5dvP9ja.9ll.9lgP9jf.9ll.9jgP9jh.9ll.9jiP9jj.9ll.9jkP9jl.9ll.9jmP9jn.9ll.9joP",
    "9jp.9ll.9jqP9jr.9ll.9jsP9jt.9ll.9juP9jv.9ll.9jwP9jx.9ll.9jyP9jz.9ll.9k0P9k1.9ll.9k2P9k4.9ll.9k5P",
    "9k6.9ll.9k7P9k8.9ll.9k9P9kf.9ll.9kgP9ki.9ll.9kjP9kl.9ll.9kmP9ko.9ll.9kpP9kr.9ll.9ksP9lp.9ll.9lqP",
    "9ly.9ll.9o4P9m3.9ll.9m4P9m5.9ll.9m6P9m7.9ll.9m8P9m9.9ll.9maP9mb.9ll.9mcP9md.9ll.9meP9mf.9ll.9mgP",
    "9mh.9ll.9miP9mj.9ll.9mkP9ml.9ll.9mmP9mn.9ll.9moP9mp.9ll.9mqP9ms.9ll.9mtP9mu.9ll.9mvP9mw.9ll.9mxP",
    "9n3.9ll.9n4P9n6.9ll.9n7P9n9.9ll.9naP9nc.9ll.9ndP9nf.9ll.9ngP9nz.9ll.9o7P9o0.9ll.9o8P9o1.9ll.9o9P",
    "9o2.9ll.9oaP9od.9ll.9oeP9kf.9lm.9khP9ki.9lm.9kkP9kl.9lm.9knP9ko.9lm.9kqP9kr.9lm.9ktP9n3.9lm.9n5P",
    "9n6.9lm.9n8P9n9.9lm.9nbP9nc.9lm.9neP9nf.9lm.9nhP1huh.1hve.1huiP1huj.1hve.1hukP1hut.1hve.1huzP",
    "1hyp.1hyf.1hymP1hyq.1hyf.1hynP1idj.1ida.1idnP1idj.1idz.1idoP1igy.1igo.1ih3P1if8.1igr.1if9P1iff.1igy.1ifiP",
    "1igy.1igy.1ih1P1if6.1ih5.1if7P1ifk.1ih5.1iflP1igy.1ih5.1ih4P1int.1ink.1inwP1int.1inu.1invP1int.1inx.1inyP",
    "1iuw.1iun.1iuyP1iux.1iun.1iuzP1jjp.1jjk.1jjsP1xr2.1xr2.1xr5P1xr2.1xr3.1xr7P1xr5.1xr3.1xraP1xr6.1xr3.1xrbP",
    "1xrd.1xr3.1xr8P1xr2.1xr4.1xr9P1xr5.1xr4.1xrcP1xr2.1xrd.1xr6P206b.206f.206hP206f.206f.206gP206h.206f.206iP"]).filterMap fun e =>
  match e.numbers with
  | [a, b, c] => some ⟨Char.ofNat a, Char.ofNat b, Char.ofNat c⟩
  | _ => none

/-- The classes of the marks that can be put in order. --/
def markClasses : CodePointMap Nat := .ofRuns (fun e =>
  match e.numbers with
  | [n, k] => (n, some k)
  | _ => (e.total, none))
  ["lcZl.6eK1.6gK4.64K1.6gK1.60K5.64K2.5mK4.64K2.5mKb.64K5.1K4.64K3.6eK2Z1.6eK3Z1.6eK3.64K3.6eK2.64K1Z3.6eK",
    "4.64K1.6eK1.6gK2.64K1.6eK1.6hK2.6iK1.6hK2.6iK1.6hKd.6eK7nZ5.6eK7dZ1.64K4.6eK1.64K3.6eK1.66K1.64K6.6eK6.64K",
    "2.6eK1.64K2.6eK1.66K1.6cK1.6eK1.aK1.bK1.cK1.dK1.eK1.fK1.gK1.hK1.iK2.jK1.kK1.lK1.mK1Z1.nK1Z1.oK1.pK1Z1.6eK",
    "1.64K1Z1.iK20Z8.6eK1.uK1.vK1.wK1cZ1.rK1.sK1.tK1.uK1.vK1.wK1.xK1.yK2.6eK2.64K5.6eK1.64K2.6eK1.64KgZ1.zK2tZ",
    "7.6eK2Z4.6eK1.64K1.6eK2Z2.6eK1Z1.64K2.6eK1.64KzZ1.10KuZ1.6eK1.64K2.6eK1.64K2.6eK3.64K1.6eK2.64K1.6eK1.64K",
    "3.6eK1.64K1.6eK1.64K1.6eK1.64K1.6eK1.64K2.6eK4gZ7.6eK1.64K1.6eK9Z1.64KoZ4.6eK1Z9.6eK1Z3.6eK1Z5.6eK17Z3.64K",
    "1nZ2.6eK3.64K4.6eK16Z5.6eK5.64Ke.6eK1Z1.64K2.6eK1.64K2.6eK1.64K3.6eK3.64K1.rK1.sK1.tK3.6eK1.64K2.6eK2.64K",
    "5.6eK1oZ1.7KgZ1.9K3Z1.6eK1.64K2.6eK2vZ1.7KgZ1.9K1cZ1.6eK1pZ1.7KgZ1.9K32Z1.7KgZ1.9K32Z1.7KgZ1.9K3jZ1.9K32Z",
    "1.7KgZ1.9K7Z1.2cK1.2jK2tZ1.7KgZ1.9K31Z2.9KgZ1.9K3gZ1.9K31Z2.2vK1.9KdZ4.2zK30Z2.3aK1.9KdZ4.3eK24Z2.64KrZ",
    "1.64K1Z1.64K1Z1.60K1jZ1.3lK1.3mK1Z1.3oK5Z4.3mK2Z1.3mK1Z2.6eK1.9K1Z2.6eK1qZ1.64K34Z1.7K1Z2.9K2aZ1.64KjzZ",
    "3.6eKqcZ2.9KuZ1.9K4dZ1.9KaZ1.6eK5nZ1.6cK3zZ1.66K1.6eK1.64K63Z1.6eK1.64K1zZ1.9KkZ8.6eK2Z1.64K1cZ5.6eK6.64K",
    "2.6eK1.64K1Z2.64K2.6eK2.64K5.6eK1.64Ki.6eK1.64K2Z6.6eK1.64K4.6eK1.6iK20Z1.7KfZ1.9K12Z1.6eK1.64K7.6eK1iZ",
    "2.9K1mZ1.7KbZ2.9K1vZ1.7K48Z3.6eK1Z1.1K5.64K2.6eK4.64K1.6eK1Z7.1K4Z1.64K6Z1.6eK3Z2.6eK5iZ2.6eK1.64K7.6eK",
    "1.64K2.6eK1.6iK1.5yK1.64K1.5mK11.6eK1.6gK2.6cK1.64K1.62K1.6eK1.6hK1.64K1.6eK1.64Kk0Z2.6eK2.1K4.6eK3.1K",
    "2.6eK4Z1.6eK3Z2.1K1.6eK1.64K1.6eK2.1K4.64K1.6eK2daZ3.6eK3xZ1.9K2oZw.6eKfeZ1.62K1.6cK1.6gK1.66K2.68K2xZ2.8K",
    "n9wZ1.6eK4Za.6eKwZ2.6eK28Z2.6eK7oZ1.9K11Z1.9K47Z1.9KrZi.6eK1lZ3.64K11Z1.9K2nZ1.7KcZ1.9K6nZ1.6eK1Z2.6eK",
    "1.64K2Z2.6eK5Z2.6eK1Z1.6eK1gZ1.9K6uZ1.9Kfn4Z1.qKldZ7.6eK7.64K2.6eKr1Z1.64K6aZ1.64K45Z5.6eK1aqZ1.64K1Z1.6eK",
    "14Z1.6eK1.1K1.64K4Z1.9K4lZ1.6eK1.64KfxZ4.6eK1tZ5.6eK8tZ2.6eK25Z2.64K1Z3.64K1yZ2.64K3.6eK1.64K1.6eK4.64K1dZ",
    "1.6eK1.64K1.6eK1.64K5cZ1.9K15Z1.9KeZ1.9K1lZ1.9K1.7K1xZ3.6eK1cZ2.9K1qZ1.7K24Z1.9K9Z1.7K2yZ1.9K1.7K4yZ1.7K",
    "1.9K28Z2.7KgZ1.9KoZ7.6eK3Z5.6eK2hZ3.9K35Z1.9K3Z1.7KnZ1.6eK2rZ1.9K1.7K6zZ1.9K1.7K3iZ1.9K3aZ1.9K1.7K37Z1.9K",
    "7hZ1.9K1.7K76Z2.9K4Z1.7K4cZ1.9K2bZ1.9KiZ1.9K29Z1.9KbpZ1.9K76Z1.7K1Z2.9K29Z1.9KbtZ2.9Kd0sZ1.9K1xcZ5.1K1nZ",
    "7.6eKxlZ2.6Kf58Z1.1K43qZ2.60K3.1K3Z1.6aK5.60K8Z8.64K2Z5.6eK2.64KuZ4.6eK44Z3.6eK2pnZ7.6eK1Zh.6eK2Z7.6eK1Z",
    "2.6eK1Z5.6eK2sZ1.6eK4gZ7.6eKafZ1.6eK1pZ4.6eKe4Z2.6gK1.64K1.6eK72Z1.6eK1.64K6rZ1.6eK2Z1.6eK7Z2.6eK5Z1.6eK",
    "d6Z7.64K31Z6.6eK1.7K"]

/-- The class of a mark; a character that keeps its place has class 0. --/
def markClass (c : Char) : Nat := (markClasses.get? c).getD 0

/-! ### Syllables -/

/-- Where the syllables of Korean start, and the letters that they are made of. --/
def syllableBase : Nat := 0xAC00
def leadBase : Nat := 0x1100
def vowelBase : Nat := 0x1161
def tailBase : Nat := 0x11A7

/-- How many leads, vowels and tails there are; the first tail is none. --/
def leadCount : Nat := 19
def vowelCount : Nat := 21
def tailCount : Nat := 28

def syllable? (c : Char) : Option (List Char) :=
  let n := c.toNat - syllableBase
  if c.toNat < syllableBase ∨ leadCount * vowelCount * tailCount ≤ n then none
  else
    let tail := n % tailCount
    some (Char.ofNat (leadBase + n / (vowelCount * tailCount)) ::
      Char.ofNat (vowelBase + n % (vowelCount * tailCount) / tailCount) ::
      if tail = 0 then [] else [Char.ofNat (tailBase + tail)])

/-- The syllable that two letters, or a syllable and a tail, make. --/
def joined? (a b : Char) : Option Char :=
  if leadBase ≤ a.toNat ∧ a.toNat < leadBase + leadCount ∧ vowelBase ≤ b.toNat ∧ b.toNat < vowelBase + vowelCount then
    some (Char.ofNat (syllableBase + ((a.toNat - leadBase) * vowelCount + (b.toNat - vowelBase)) * tailCount))
  else if syllableBase ≤ a.toNat ∧ a.toNat < syllableBase + leadCount * vowelCount * tailCount ∧
      (a.toNat - syllableBase) % tailCount = 0 ∧ tailBase < b.toNat ∧ b.toNat < tailBase + tailCount then
    some (Char.ofNat (a.toNat + (b.toNat - tailBase)))
  else none

/-! ### Taking apart and putting together -/

/-- The characters that `c` stands for, taken apart at most `depth` times. --/
def takenApart : Nat → Char → List Char
  | 0, c => [c]
  | depth + 1, c =>
    match syllable? c with
    | some cs => cs
    | none =>
      match composites.find? fun p => p.whole == c with
      | some p => takenApart depth p.first ++ [p.second]
      | none => [c]

/-- How often a character can be taken apart. --/
def depth : Nat := 4

/-- Puts a mark before those of higher class that stand last; what is there stands backwards. --/
def insertMark (c : Char) : List Char → List Char
  | [] => [c]
  | d :: rest => if markClass c ≠ 0 ∧ markClass c < markClass d then d :: insertMark c rest else c :: d :: rest

def ordered (cs : List Char) : List Char := (cs.foldl (fun back c => insertMark c back) []).reverse

def composed? (a b : Char) : Option Char :=
  match joined? a b with
  | some c => some c
  | none => (composites.find? fun p => p.first == a && p.second == b).map (·.whole)

/-- What is being put together: a character that others may join, the marks after it that did not, and what is
    finished; the latest stands first. --/
structure Composing where
  finished : List Char
  base : Option Char
  marks : List Char

namespace Composing

/-- Whether a mark that did not join stands between the base and a character of class `k`. --/
def blocks (s : Composing) (k : Nat) : Bool :=
  match s.marks with
  | [] => false
  | m :: _ => k ≤ markClass m

def all (s : Composing) : List Char := s.marks ++ (s.base.toList ++ s.finished)

def keep (s : Composing) (c : Char) : Composing :=
  if markClass c = 0 then ⟨s.all, some c, []⟩
  else if s.base.isNone then ⟨c :: s.finished, none, []⟩
  else { s with marks := c :: s.marks }

def add (s : Composing) (c : Char) : Composing :=
  match s.base with
  | none => s.keep c
  | some b =>
    if s.blocks (markClass c) then s.keep c
    else
      match composed? b c with
      | some x => { s with base := some x }
      | none => s.keep c

end Composing

def composed (cs : List Char) : List Char :=
  ((ordered (cs.flatMap (takenApart depth))).foldl Composing.add ⟨[], none, []⟩).all.reverse

end Domain
end AnsibleStaging
