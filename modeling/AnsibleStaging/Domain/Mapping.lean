import AnsibleStaging.Text.CodePointMap

/-! How the characters of a domain name are mapped before it is looked at: capitals become small, compatible forms
    become what they stand for, and what a reader cannot see is dropped. Characters that no name may hold are
    refused. -/

namespace AnsibleStaging
namespace Domain

/-- What becomes of the characters of a range. --/
inductive Treatment where
  | dropped
  | refused
  /-- The first of every two is mapped to the second. --/
  | pairs
  /-- Each is mapped to the one as far from `target` as it is from the start of the range. --/
  | shifted (target : Nat)
  | replaced (text : List Char)

/-- What an entry of the table says of a run: it stays (`V`), is dropped (`I`) or refused (`X`), consists of pairs
    (`A`), is shifted (`R`) or replaced by one character (`C`). Any other entry is one character and what
    replaces it. --/
def Treatment.ofEntry (e : Table.Entry) : Nat × Option Treatment :=
  match e.letter, e.numbers with
  | 'V', [n] => (n, none)
  | 'I', [n] => (n, some .dropped)
  | 'X', [n] => (n, some .refused)
  | 'A', [n] => (2 * n, some .pairs)
  | 'R', [n, target] => (n, some (.shifted target))
  | 'C', [n, target] => (n, some (.replaced [Char.ofNat target]))
  | _, targets => (1, some (.replaced (targets.map Char.ofNat)))

/-- The characters that do not stand for themselves. --/
def mapping : CodePointMap Treatment := .ofRuns Treatment.ofEntry
  ["1tVq.2pR11VwXwS7Vw.lkS1V2pS2V1I1Vw.lgS2V2.1eRw.ldSqkS2Vw.mfS1dS33S1V1d.6dg.1gS1d.6dg.1eS1f.6dg.1gS1Vn.68R",
    "1V7.6wRxVoA2x.ljS1V2x.2yS2x.2yS2A1V3A30.53S30.53S4Ajg.32SnA73S3A37S1VgjS2AgkS1A2.gmR1A1Vd9SgpSgrS1AgwSgzS",
    "1Vh5Sh4S1A2VhbSheS1VhhS3AhsS1AhvS2V1Ai0S1A2.i2R2AiaS1A2V1A6V2s.amS2s.amS2s.amS30.2yS30.2yS30.2yS32.2yS",
    "32.2yS32.2yS8A1V9A1V2s.3eS2s.3eS2s.3eS1Ab9ScfSkAbiS1V9A6V8rpS1AbeS8rqS2V1AaoSi1Si4S5A2oV2wSh2S2yS36ShlShnS",
    "htS3bS3dSvVw.liSw.ljSw.lmSw.mgSw.lfSw.lnS2VgzS30S37S3cSidS2jV2.lcR1VlvSlk.ldSqhS9V1IwV2AjdS1V1A2Xw.qhS3V",
    "1nSs3S4Xw.ldSw.lk.ldSq4S53S3.q5R1Xr0S1X2.r1R1Vh.q9R1X9.qrRzVrbSqaSqgSqtSr1SqzSquSqoS1VcAqiSqpSqrS1VqgSqdS",
    "1V1AqrS1A1V3.orRg.uoRw.tsR1cVhA8VrAy7S7A1V1cA1X12.129R2X1aV12d.136S3V2X3V1X1jV8XrV4X6VhXmV1X2gV17r.19wS",
    "18o.19wS1c7.19wS18q.19wS2sV1X1cV2X1nV2X2tVeX1nV2X1dV2XfV1XsV2X1V1XbV5XwV7X23V1X39V1sl.1toS1sm.1toS1sn.1toS",
    "1ss.1toS1sx.1toS1sy.1toS1t7.1toS1tb.1toS10V1X8V2X2V2XmV1X7V1X1V3X4V2X9V2X2V2X4V8X1V4X1wh.1x8S1wi.1x8S1X",
    "1wv.1x8S4V2XpV2X3V1X6V4X2V2XmV1X7V1X1V20i.20sS1X1V20o.20sS1X2V2X1V1X5V4X2V2X3V3X1V7X1zq.20sS1zr.20sS",
    "1zw.20sS1V1X20b.20sS7XhVaX3V1X9V1X3V1XmV1X7V1X2V1X5V2XaV1X3V1X3V2X1VfX4V2XcV7X7V1X3V1X8V2X2V2XmV1X7V1X2V1X",
    "5V2X9V2X2V2X3V7X3V4X275.27wS276.27wS1X5V2XiVaX2V1X6V3X3V1X4V3X2V1X1V1X2V3X2V3X3V3XcV4X5V3X3V1X4V2X1V6X1VeX",
    "lV5XdV1X3V1XnV1XgV2X9V1X3V1X4V7X2V1X3V1X2V2X4V2XaV7XmV1X3V1XnV1XaV1X5V2X9V1X3V1X4V7X2V5X3V1X4V2XaV1X3VcXdV",
    "1X3V1X1fV1X3V1X6V4XgV2XqV1X3V1XiV3XoV1X9V1X1V2X7V3X1V4X6V1X1V1X8V6XaV2X3VcX1eV2tp.2syS7V4XtV11X2V1X1V1X5V",
    "1XoV1X1V1XcV2x9.2wiSaV2X5V1X1V1X7V1XaV2X2wb.2vtS2wb.2w1S2VwXcV2yzS1iV30i.33rS4V1X4V30s.33rS4V30x.33rS4V",
    "312.33rS4V317.33rScV30g.33pS3V4X2V31t.31uS1V31t.31wS33m.328S33m.31t.328S33n.328S33n.31t.328S7V31t.328ShV",
    "32q.33rS4V1X4V330.33rS4V335.33rS4V33a.33rS4V33f.33rScV32o.33pS3V1XfV1XdV11X4gV12.8w0R1X8x3S5X8x9S2X18V3bwS",
    "2qV2I6gV1X4V2X7V1X1V1X4V2X15V1X4V2XxV1X4V2X7V1X1V1X4V2XfV1X1lV1X4V2X1vV2XwV3XqV6X2eV2X6.3xsR2XhsV1XsV3X2hV",
    "7XmV9XoV9XkVcXdV1X3V1X2VcX1gV2I14V2XaV6XaV6XbV5IaV6X2hV7X17V5X1yVaXvV1XcV4XcV4X1V3X16V2X5VbX18V4XqV6XbV3X",
    "1qV2X1tV1XtV2XbV6XaV6XeV2X1aV2XcVkX25V1X4mV8X1oV3XfV3X1fVtuStwSu6S2.u9RuaSuiSv7SwujS1A5X17.3bkR2X3.3ctR8V",
    "8X17V5X18V2pS6eS2qS1V2.2sRd9S8.2vR1V33Sf7S34S36S2.38R3bS2pS2.ggR5qaS2qS2.2sRgpS2.grR2vS1V2zS31S97S33SgkS",
    "2.5quR34S2.38R5r1ShbS3aS5r9S3.qaR2.quR2xS36S2.39R2.qaRqpS2.quRdVu5SyVgiS2rSglS6oSgsS2uSgvSgxSh1S3.h4R5tnS",
    "ilSh9S5txSinShdShcS4.heRhkS2.huRbvS2.i1R5r0S2.i3R3eS3.i8RqgS1sV23A4V2p.jiS601S2V67S1V1cA8V8.64gR6V2X6.64wR",
    "2X8V8.65cR8V8.65sR6V2X6.668R2X8V1X66pS1X66rS1X66tS1X66vS8V8.674R1Vq4S1Vq5S1Vq6S1Vq7S1Vr0S1Vr1S1Vr2S2X",
    "64g.qhS64h.qhS64i.qhS64j.qhS64k.qhS64l.qhS64m.qhS64n.qhS64g.qhS64h.qhS64i.qhS64j.qhS64k.qhS64l.qhS64m.qhS",
    "64n.qhS65c.qhS65d.qhS65e.qhS65f.qhS65g.qhS65h.qhS65i.qhS65j.qhS65c.qhS65d.qhS65e.qhS65f.qhS65g.qhS65h.qhS",
    "65i.qhS65j.qhS674.qhS675.qhS676.qhS677.qhS678.qhS679.qhS67a.qhS67b.qhS674.qhS675.qhS676.qhS677.qhS678.qhS",
    "679.qhS67a.qhS67b.qhS2V67k.qhSq9.qhSq4.qhS1X1V69i.qhS2.69cR67kSq4Sq9.qhSw.lvSqhSw.lvSw.n6Sw.lk.n6S67o.qhS",
    "qf.qhSq6.qhS1X1V69y.qhS67mSq5S67oSq6Sqf.qhSw.lv.lcSw.lv.ldSw.lv.n6S3VpcS2X2V2.6a8R67qSq7S1Xw.lw.lcS",
    "w.lw.ldSw.lw.n6S3Vq8S4V2.6aoR67uSr1S6atSw.lk.lcSw.lk.ldS2oS2X67w.qhSqx.qhSr2.qhS1X1V6ba.qhS67sSr0S67wSr2S",
    "qx.qhSw.ldSw.lwS1Xb.wC1I2V2X1V6c0S5Vw.mrScV3X1V7XwS3V6cy.6cyS6cy.6cy.6cyS1V6d1.6d1S6d1.6d1.6d1S4Vx.xS1V",
    "w.lhS8V1r.1rS1r.xSx.1rSdV6cy.6cy.6cy.6cyS7VwS5I5X6I1cS2xS2X6.1gR17S6qaS1pS2.14R32Sa.1cR17S6qaS1pS2.14R1X",
    "2pS2tS33S3cSgpS2wS4.2zR34S2.37R3X8V36.37SpVeXxVfX2p.1b.2rS2p.1b.37S2rS4w.2rS1V2r.1b.33S2r.1b.39SgrS1V",
    "4w.2uS2.2vR3.2wC87S2.2xC2.30C1V32S32.33S2V3.34R2.36C2V37.31S38.2t.30S38.31S1V3eS1VqxS1V3eS1V2zS6dS2.2qR1V",
    "2.2tC2uS6kuS31S33S4.15cR2xS1V2u.2p.3cSqoS2.qbCqoS6q9S4V2.2sC2tS2.2xR6V1d.6dg.1jS1d.6dg.1lS1d.6dg.1d.1cS",
    "1d.6dg.1fS1e.6dg.1fS1d.6dg.1hS1e.6dg.1hS1f.6dg.1hS1g.6dg.1hS1d.6dg.1iS1h.6dg.1iS1d.6dg.1kS1f.6dg.1kS",
    "1h.6dg.1kS1j.6dg.1kS1d.6dgS2xS2x.2xS2x.2x.2xS2x.3aS3aS3a.2xS3a.2x.2xS3a.2x.2x.2xS2x.3cS3cS3c.2xS3c.2x.2xS",
    "30S2.2rR31S2xS2x.2xS2x.2x.2xS2x.3aS3aS3a.2xS3a.2x.2xS3a.2x.2x.2xS2x.3cS3cS3c.2xS3c.2x.2xS30S2.2rR31S3V1A4V",
    "1c.6dg.1fS2V4X4cV6qz.6qzS6qz.6qz.6qzS1V6r2.6r2S6r2.6r2.6r2S6wV2.9hkR73VmXbVlX9.1dR1d.1cS1d.1dS1d.1eS1d.1fS",
    "1d.1gS1d.1hS1d.1iS1d.1jS1d.1kS1d.1lS1e.1cS14.1d.15S14.1e.15S14.1f.15S14.1g.15S14.1h.15S14.1i.15S14.1j.15S",
    "14.1k.15S14.1l.15S14.1d.1c.15S14.1d.1d.15S14.1d.1e.15S14.1d.1f.15S14.1d.1g.15S14.1d.1h.15S14.1d.1i.15S",
    "14.1d.1j.15S14.1d.1k.15S14.1d.1l.15S14.1e.1c.15SkX14.2p.15S14.2q.15S14.2r.15S14.2s.15S14.2t.15S14.2u.15S",
    "14.2v.15S14.2w.15S14.2x.15S14.2y.15S14.2z.15S14.30.15S14.31.15S14.32.15S14.33.15S14.34.15S14.35.15S",
    "14.36.15S14.37.15S14.38.15S14.39.15S14.3a.15S14.3b.15S14.3c.15S14.3d.15S14.3e.15Sq.2pRq.2pR1cS10hV",
    "6qz.6qz.6qz.6qzS2vV1m.1m.1pS1p.1pS1p.1p.1pS2tV8gt.mwS47V2X3uV1c.8q8R1cV1Ah7S5tpShpS2V3AghShdSggSgiS1V1A1V",
    "1A5V2yS3aS2.fzR1eA7V2A3V1A5X19V1X1V5X1V2X1kV7X8ypS1VeXoV9X7V1X7V1X7V1X7V1X7V1X7V1X7V1X7V1X3iVyXqV1X4VlalS",
    "2bVvj3ScXfeoSffsSfg6SfgfSfh5SfidSfikSfj4SfjuSg1rSg2tSg2zSg3mSg46Sg4rSg68Sg6tSg74SgbfSge1SgetSgeySgfsSgg1S",
    "ggsSgh5SghuSgjaSgjsSgkjSh5jSh7jShkbShkyShl6ShlhShlzSho3Si1cSi2oSi60Si6nSi76Si7sSi9aSi9dSijfSijpSik1SikeS",
    "inmSinuSinzSir8SiriSirvSis3SitsSiu9SiurSiwzSjd4SjeeSjezSjzjSjzoSk1zSk2fSk2sSk3dSk4gSk4lSkc0SkcoSkdkSl5sS",
    "l7mSl89Sl9vSlajSlasSlazSlcfSlckSldgSm7fSmjuSmk6SmkbSmkfSmknSml5Sml7SmngSmtgSmtlSn30Sn3aSn4oSn4vSn54Sn5cS",
    "n7vSn82SneeSnelSnfySngfSnhqSnobSnoiSnozSny2So1kSo1qSo6sSo97SoahSokzSoooSp4mSp5dSp6ySp8dSpa9SpakSpaqSpbnS",
    "pdrSpe1SpnnSpnuSpo3SpocSposSpp7SppbSpriSprmSprsSqj1SqjvSqwwSqx8SqxvSr5qSr63Sr82Sr9cSrp3SrpiSrpxSrqwSrrxS",
    "rxgSrxsSrznSs6jSs7eSsd7SsdsSsdxSsk1Ssp5SssmSsssSssxStivStj4StngStrqStrtStt4Stw1StweStwiStwpStzfSu0dSu0jS",
    "u0xSu5kSu6zSu73Suc6Suc9SucsSujsSul4SulbSun9SunjSunmSunwSuoqSuzpSvatSvb3Svc5SvcrSvczSvd9SvddSvehSvelSvf2S",
    "vf7SvfkSvgbSvgqSvgySvilSvj0Svj4S16XwS1V1aS1fV9huS1Vgg1S2.gg4R5V1X2eV2X2Vw.9llSw.9lmS2V9l4.9l6S2nV9mb.9mwS",
    "5X17V1X2.3cwR3hmS3cyS2.3hoR3.3czR6.3hsR3dmS3.3d2R3dtSa.3d5Rl.3flR1I2.3dgR2.3ifR3ikS3imS3irS3ivS3ixS3doS",
    "3j1S3j3S2.3dpR3dsS2.3duR3dzS3e1S5.3e3R3eaS3eeS3eoS3evS3f0S2.3jlR3.3fbR2.3gkR3goS2.3gxR3h0S3haS3hdS1X2VfeoS",
    "fikSfexSh5nSfeySffxSfezSn5eSfh5SffdSfepShm1Sh80SfjuS1yVaXgV14.3cw.15S14.3cy.15S14.3cz.15S14.3d1.15S",
    "14.3d2.15S14.3d3.15S14.3d5.15S14.3d7.15S14.3d8.15S14.3da.15S14.3db.15S14.3dc.15S14.3dd.15S14.3de.15S",
    "14.xz4.15S14.yvs.15S14.zc4.15S14.108s.15S14.10p4.15S14.115g.15S14.1224.15S14.12ys.15S14.13f4.15S",
    "14.14bs.15S14.14s4.15S14.158g.15S14.15os.15S14.1654.15S14.13p8.15S14.1350.13ic.15S14.1350.16f8.15S1X",
    "14.feo.15S14.fik.15S14.fex.15S14.h5n.15S14.fis.15S14.g31.15S14.fer.15S14.g2z.15S14.fh9.15S14.gg1.15S",
    "14.kco.15S14.m7f.15S14.ldg.15S14.kdk.15S14.ssx.15S14.h7j.15S14.k4l.15S14.kkq.15S14.kcp.15S14.ny6.15S",
    "14.glp.15S14.mm1.15S14.rs1.15S14.nz1.15S14.gc4.15S14.fkz.15S14.gos.15S14.i1y.15S14.nhf.15S14.flt.15S",
    "14.rt3.15S14.ggk.15S14.nzh.15S14.fm9.15S14.pnu.15S14.po3.15SgunSinwSk1zSoenS8V34.38.2tS1e.1dS1e.1eS1e.1fS",
    "1e.1gS1e.1hS1e.1iS1e.1jS1e.1kS1e.1lS1f.1cS1f.1dS1f.1eS1f.1fS1f.1gS1f.1hS3cwS2.3cyR3.3d1R3d5S2.3d7R5.3daR",
    "xz4SyvsSzc4S108sS10p4S115gS1224S12ysS13f4S14bsS14s4S158gS15osS1654S14c8.y5cS13p8.13dkS138wS1VfeoSfikSfexS",
    "h5nSfisSg31SferSg2zSfh9Sgg1SkcoSm7fSldgSkdkSssxSh7jSk4lSkkqSkcpSny6SglpSmm1Srs1Snz1Sgc4So2gSn5jSho3SsixS",
    "g16SghcSligSu11Sfm9Sg49Sl7nSfeySffxSfezSijqSgkzSgfvSi3bSi1ySnhfSfltSrt3SggkShloS1f.1iS1f.1jS1f.1kS1f.1lS",
    "1g.1cS1g.1dS1g.1eS1g.1fS1g.1gS1g.1hS1g.1iS1g.1jS1g.1kS1g.1lS1h.1cS1d.kcoS1e.kcoS1f.kcoS1g.kcoS1h.kcoS",
    "1i.kcoS1j.kcoS1k.kcoS1l.kcoS1d.1c.kcoS1d.1d.kcoS1d.1e.kcoS2w.2vS2t.36.2vS2t.3aS30.38.2sS9luS9lwS9lyS9m0S",
    "2.9m2R9m5S9m7S9m9S9mbS9mdS9mfS9mhS9mjS9mlS9mnS9mpS9msS9muS9mwS6.9myR9n6S9n9S9ncS9nfS5.9niR9noS9nqS6.9nsR",
    "4.9nzRfl0.gp8S9lu.9n5.9oc.9mwS9lu.9nv.9n9.9ltS9lu.9o3.9ne.9luS9lu.9oc.9nvS9lw.9mz.9o3.9m8S9lw.9o3.9mpS",
    "9ly.9m1.9o3S9m0.9mh.9m7.9oc.9mxS9m0.9oc.9m3.9ocS9m2.9o3.9mhS9m2.9oc.9nkS9m3.9lw.9nuS9m3.9nt.9mr.9mwS",
    "9m3.9nx.9nu.9ocS9m4.9nx.9o3S9m4.9o3.9niS9m6.9m4S9m6.9mz.9ocS9m5.9np.9nu.9ocS9m6.9nv.9mo.9ocS9m5.9nxS",
    "9m5.9nx.9m8.9nt.9nkS9m5.9nx.9nl.9oc.9mw.9nvS9m5.9nx.9nz.9mr.9mwS9m8.9nt.9nkS9m8.9nt.9nk.9mw.9o3S",
    "9m7.9nv.9mk.9lw.9nxS9m7.9nx.9oc.9n1S9m9.9oc.9mhS9mb.9nv.9myS9mb.9oc.9nhS9md.9lw.9m7.9nvS",
    "9md.9o3.9mp.9oc.9nkS9mf.9nu.9o3.9m8S9mj.9o3.9mpS9mj.9o3.9mwS9mo.9oc.9mhS9mv.9mfS9mx.9nvS9mw.9o3S9my.9n2S",
    "9n2.9mr.9mwS9n3.9lw.9msS9n5.9oc.9mj.9o3.9mwS9n5.9oc.9msS9n4.9oc.9nw.9nvS9n8.9lu.9mh.9mw.9nvS9n8.9m7.9nvS",
    "9n8.9mbS9n7.9nvS9n9.9lt.9nt.9mr.9mxS9n9.9lv.9oc.9mwS9na.9mr.9mf.9lz.9nvS9n9.9nt.9o3S9nc.9m7.9mn.9oc.9nvS",
    "9ne.9mlS9ne.9mz.9n6S9nc.9nv.9msS9ne.9o3.9mhS9ne.9oc.9mgS9nd.9oc.9mnS9nh.9lw.9o3.9mwS9ng.9nv.9mwS9nf.9o3S",
    "9nh.9o3.9mxS9nf.9oc.9nvS9nf.9oc.9o3S9ni.9lw.9m7.9nxS9ni.9lw.9nvS9ni.9mr.9n3S9ni.9nv.9m7S",
    "9ni.9o3.9mf.9nr.9o3S9nj.9m7.9nx.9o3S9nj.9nuS9nj.9nu.9n4.9oc.9nvS9nl.9m4S9nl.9m4.9mw.9o3S9nl.9oc.9mw.9nvS",
    "9no.9oc.9mxS9no.9oc.9nvS9nq.9lu.9o3S9nu.9mr.9mw.9nvS9nu.9ntS9nv.9n8.9ocS9nv.9oc.9na.9nvS9nw.9nkS",
    "9nw.9o3.9mw.9ma.9o3S9nz.9mr.9mwS1c.m9lS1d.m9lS1e.m9lS1f.m9lS1g.m9lS1h.m9lS1i.m9lS1j.m9lS1k.m9lS1l.m9lS",
    "1d.1c.m9lS1d.1d.m9lS1d.1e.m9lS1d.1f.m9lS1d.1g.m9lS1d.1h.m9lS1d.1i.m9lS1d.1j.m9lS1d.1k.m9lS1d.1l.m9lS",
    "1e.1c.m9lS1e.1d.m9lS1e.1e.m9lS1e.1f.m9lS1e.1g.m9lS2w.34.2pS2s.2pS2p.39S2q.2p.36S33.3aS34.2rS2s.31S",
    "2s.31.1eS2s.31.1fS2x.39Sinn.jdcSk6l.gp8Shlz.l7nSk5q.lh7Skkq.irz.fmi.ny6S34.2pS32.2pSqk.2pS31.2pS2z.2pS",
    "2z.2qS31.2qS2v.2qS2r.2p.30S2z.2r.2p.30S34.2uS32.2uSqk.2uSqk.2vS31.2vS2z.2vS2w.3eS2z.2w.3eS31.2w.3eS",
    "2v.2w.3eS38.2w.3eSqk.30S31.30S2s.30S2z.30S2u.31S32.31Sqk.31S31.31S2r.31S2z.31S31.31.1eS2r.31.1eS31.1eS",
    "2z.31.1eS31.31.1fS2r.31.1fS31.1fS2z.31.1fS31.6qd.37S31.6qd.37.1eS34.2pS2z.34.2pS31.34.2pS2v.34.2pS",
    "36.2p.2sS36.2p.2s.6qd.37S36.2p.2s.6qd.37.1eS34.37S32.37Sqk.37S31.37S34.3aS32.3aSqk.3aS31.3aS2z.3aS31.3aS",
    "34.3bS32.3bSqk.3bS31.3bS2z.3bS31.3bS2z.qxS31.qxS1X2q.35S2r.2rS2r.2sS2r.6qd.2z.2vS1X2s.2qS2v.3dS2w.2pS",
    "2w.34S2x.32S2z.2zS2z.31S2z.38S30.31S30.32S30.33.2vS30.3cS31.2qS31.2x.30S31.33.30S34.2wS1X34.34.31S34.36S",
    "37.36S37.3aS3b.2qS3a.6qd.31S2p.6qd.31S1d.k4lS1e.k4lS1f.k4lS1g.k4lS1h.k4lS1i.k4lS1j.k4lS1k.k4lS1l.k4lS",
    "1d.1c.k4lS1d.1d.k4lS1d.1e.k4lS1d.1f.k4lS1d.1g.k4lS1d.1h.k4lS1d.1i.k4lS1d.1j.k4lS1d.1k.k4lS1d.1l.k4lS",
    "1e.1c.k4lS1e.1d.k4lS1e.1e.k4lS1e.1f.k4lS1e.1g.k4lS1e.1h.k4lS1e.1i.k4lS1e.1j.k4lS1e.1k.k4lS1e.1l.k4lS",
    "1f.1c.k4lS1f.1d.k4lS2v.2p.30Sm8dV3X1jV9X9oVkXnAiVeAuiSukS2iV8XyV7A2VvAx2nS8V2A5tlS5A3V1Ah1S2V2A2VaAh2SgsS",
    "gxSh8Sh6S1VimShzSilSxubS8Ax3oShuS5u6S2Ah0S8AbfSkX37S2rS2uS35S1A1V87S9fS1fV3XaV6X1kV8X1yV8XcV6X38VbXuV3X26V",
    "1XbV4XxV1X1jV9XeV2XaV2X2vVoXsVaX6V2X6V2X6V9X7V1X7V1X18Vx0nSxtjSh7SxuaS9Vi5S2V4X28.3vkR1aV2XaV6X8mcVcXnV4X",
    "1dV6isXrpkSkc4Ss7eSrt4Slw1Sfg2SgklS2.vj0Chn5SssxSgw7ShmwSjcmSne1Sp6tSqinSqt6Sr20SsjzSkxuSljvSmahSmvySq4dS",
    "sq2SuepSfiaSghhSl50SmjfSqi5Sv8eSifkSm3vSqfhSr50SjihSpncSqvzSiq2Skd3Slm2SmpoSslqSfpiSg53SgdaSjwkSl3nSmj4S",
    "nhjSpa9Sqh2SqjgSs1bStv6SupbSv7eSnt8SnzzSotcSq15St1gSvb3SrfaShjzSiroSokgSpdqSmleSnuySrsySttjShjsSi8ySkybS",
    "lp6SlxrSoq7SoxjStorSgcySpe3Sg64Sg5oSo4cSou6Sq29StpxSrk0SjinSkxuSrgeSfg9Si5jSiz6SmtjSn74SgevSnwbSfr3Siw9S",
    "ff1SlhoSk1kSopuSgjnShgeSni9Sq4pSre2Sla2SsdsSlfsSjjySputSjogSn6tSfjiSg2xSg5lSkn5Soo7SprjSrf6SssvSgdxSgn6S",
    "ho3Sir0Sk3pSm4eSnxmStkdSui2SvbrSvdaSgbfSkauSl87SsbmSinoSj9sSjcwSjveSlybSmdlSn0pSo22SovoSpdbSs9ySq9aSsgzS",
    "t3eSg7rSgbnSgqlSma0Sr0iSre2Siq1SiydSjnfSl9qSojiSmt1Sfl0Sh6hSi5jSiiiSizgSmuqSmztSp7eSpc6SsvoSttiStvsSu1kS",
    "fpnSo1aSss4StrsSj4xSfieSfyySi5qSi7zSk2hSkxuSmhaSncySq9oSsjgSvilSk94StnySgaxSkfvSkj7SlkxSlukSmx5Sn6hSnsbS",
    "opcSu3iSg31Sje6Stq0Sfu3Sie1SlpmSsa2SivfSj7oSkk7SmtjStqeSg89SglrSi91Sk5vSkemSko8SlidSmx2SnaaSp6hSr0vSr1dS",
    "sssStsySgfzSlveSgm5SmhcSn14SqgqStr7SuvrSvbzSkgnSlorSpnsSo97SobkSoluSmo0Sm8pSriwSfk0Spx2Sg8qSg7bSip2SjirS",
    "onqSi2tSljySkacSsajSqx8StotSr63SiqbSg1sSgxsS2VhgaS1Vk8kS2Vg66SmqySngqSny4Snz2Snz9So0fStw6Son2Sp8dS1VqheS1V",
    "rg8S2VshkSsn1S3Vu7jSu7wSu94Sv5gSsm6StrrSfqmSfzbSg25SgcpSgdgSgghSgwtSgzqSh2gShfkShigSi90Si9aSj2sSj8oSj9qS",
    "jciSk0fSk4iSk9dSkn9SlmfSlqySlyaSmemSmjvSmxuSntdSny6SnyhSnygSnyoSnyuSnz1S2.o0dRo5cSo75Sog0SovoSow9SoxtSp6aS",
    "padSpnxS2.prtCq53Sr2oSr6eSrghSri1SrtfSruwSsdySshkStszSu0vSu2jSj1xS36cuSpp4S2XffqSg51Sg2wSfpcSg1xSg3kSgcnS",
    "ge2SgwtSgutSgwpSgyqShgaShirShmsShn8ShuqSi08SiqaSiqhSiuhSiwdSj4oSj7ySj60Sj9qSj8gSjciSjecSjpgSjrwSjteSk0mS",
    "k8kSkd3Skd7SkeuSl89Sla2SlkxSlwbSlvvSlyaSm5aSmemSnmvSmk5SmnjSmqySn01Sn46Sn5nSnbxSnbzSngqSnh7SnhwSnkaSnk0S",
    "nv0So8hSog0Sol7SorfSovoSp4uSpadSpxuSq27SqrdSr41Sr5ySr6eSrenSrg8SrezSrghSrgeSrfxSri1SrkaSruwSsagSsj6SsrdS",
    "sxiStq4StszStw6StzvSu0vSu17Su2jSumqSvj0S313eS3138S33dhSbrxScnsScopS39e1S3bgwS3i6rSvgjSvimS12X2u.2uS2u.2xS",
    "2u.30S2u.2u.2xS2u.2u.30S37.38S37.38ScX12s.12uS12s.12dS12s.12jS132.12uS12s.12lS5X15l.14kS1V16a.14nS15uS15cS",
    "2.15fR3.15nR160S162S17S161.14xS161.14yS161.14s.14xS161.14s.14yS15c.14nS15c.14oS15c.14sS15d.14sS15e.14sS",
    "15f.14sS15g.14sS15h.14sS15i.14sS1X15k.14sS15l.14sS15m.14sS15n.14sS15o.14sS1X15q.14sS1X15s.14sS15t.14sS1X",
    "15v.14sS15w.14sS1X15y.14sS15z.14sS160.14sS161.14sS162.14sS15h.14pS15d.14vS15n.14vS15w.14vS15c.15oS2.19tC",
    "4.1a3C4.1a6C4.1a8C4.1a2C4.1a7C4.1a1C4.1b8C4.1baC4.1acC4.1abC4.1aeC4.1afC2.1alC2.1akC2.1amC2.1agC2.1awC",
    "2.1apC4.1bdC4.1bjC4.1bnC4.1blC2.1buC4.1bvC2.1c0C4.1c1C4.1byC2.1ciC2.1cjCxV4.1bhC2.1c7C2.1c6C2.1c8C1c7.19wS",
    "2.1cbC2.1c5C2.1c9C4.1cgC2.18pC17q.17rS17q.17rS17q.1clS17q.1clS17q.18oS17q.18oS17q.1c7S17q.1c7S17q.1c6S",
    "17q.1c6S17q.1c8S17q.1c8S17q.1cgS17q.1cgS17q.1cgS17q.18pS17q.18pS17q.18pS4.1ccC17q.17wS17q.17xS17q.18lS",
    "17q.18pS17q.18qS17s.17wS17s.17xS17s.17yS17s.18lS17s.18pS17s.18qS17u.17wS17u.17xS17u.17yS17u.18lS17u.18pS",
    "17u.18qS17v.17wS17v.18lS17v.18pS17v.18qS17w.17xS17w.18lS17x.17wS17x.18lS17y.17wS17y.17xS17y.18lS183.17wS",
    "183.17xS183.17yS183.18lS185.17xS185.18lS186.17wS186.17xS186.17yS186.18lS187.17xS187.18lS188.18lS189.17wS",
    "189.18lS18a.17wS18a.18lS18h.17wS18h.17xS18h.17yS18h.18lS18h.18pS18h.18qS18i.17xS18i.18lS18i.18pS18i.18qS",
    "18j.17rS18j.17wS18j.17xS18j.17yS18j.18kS18j.18lS18j.18pS18j.18qS18k.17wS18k.17xS18k.17yS18k.18lS18k.18pS",
    "18k.18qS18l.17wS18l.17xS18l.17yS18l.18lS18l.18pS18l.18qS18m.17wS18m.17xS18m.17yS18m.18lS18m.18pS18m.18qS",
    "18n.17wS18n.18lS18n.18pS18n.18qS18q.17wS18q.17xS18q.17yS18q.18lS18q.18pS18q.18qS180.19sS181.19sS18p.19sS",
    "w.18s.18xSw.18t.18xSw.18u.18xSw.18v.18xSw.18w.18xSw.18x.19sS17q.181S17q.182S17q.18lS17q.18mS17q.18pS",
    "17q.18qS17s.181S17s.182S17s.18lS17s.18mS17s.18pS17s.18qS17u.181S17u.182S17u.18lS17u.18mS17u.18pS17u.18qS",
    "17v.181S17v.182S17v.18lS17v.18mS17v.18pS17v.18qS18h.18pS18h.18qS18i.18pS18i.18qS18j.17rS18j.18kS18j.18lS",
    "18j.18pS18j.18qS18k.18lS18k.18pS18k.18qS18l.17rS18l.18lS18m.181S18m.182S18m.18lS18m.18mS18m.18pS18m.18qS",
    "18p.19sS18q.181S18q.182S18q.18lS18q.18mS18q.18pS18q.18qS17q.17wS17q.17xS17q.17yS17q.18lS17q.18nS17s.17wS",
    "17s.17xS17s.17yS17s.18lS17s.18nS17u.17wS17u.17xS17u.17yS17u.18lS17u.18nS17v.18lS17w.17xS17w.18lS17x.17wS",
    "17x.18lS17y.17wS17y.18lS183.17wS183.17xS183.17yS183.18lS185.17xS185.17yS185.18lS186.17wS186.17xS186.17yS",
    "186.18lS187.17xS188.18lS189.17wS189.18lS18a.17wS18a.18lS18h.17wS18h.17xS18h.17yS18h.18lS18i.17xS18i.18lS",
    "18j.17wS18j.17xS18j.17yS18j.18kS18j.18lS18k.17wS18k.17xS18k.17yS18k.18lS18k.18nS18l.17wS18l.17xS18l.17yS",
    "18l.18lS18m.17wS18m.17xS18m.17yS18m.18lS18m.18nS18n.17wS18n.18lS18n.19sS18q.17wS18q.17xS18q.17yS18q.18lS",
    "18q.18nS17q.18lS17q.18nS17s.18lS17s.18nS17u.18lS17u.18nS17v.18lS17v.18nS183.18lS183.18nS184.18lS184.18nS",
    "18j.18kS18j.18lS18k.18lS18m.18lS18m.18nS18q.18lS18q.18nS18g.18u.18xS18g.18v.18xS18g.18w.18xS187.18pS",
    "187.18qS189.18pS189.18qS18a.18pS18a.18qS183.18pS183.18qS184.18pS184.18qS17x.18pS17x.18qS17w.18pS17w.18qS",
    "17y.18pS17y.18qS185.18pS185.18qS186.18pS186.18qS184.17wS184.17xS184.17yS184.18lS184.181S183.181S185.181S",
    "186.181S187.18pS187.18qS189.18pS189.18qS18a.18pS18a.18qS183.18pS183.18qS184.18pS184.18qS17x.18pS17x.18qS",
    "17w.18pS17w.18qS17y.18pS17y.18qS185.18pS185.18qS186.18pS186.18qS184.17wS184.17xS184.17yS184.18lS184.181S",
    "183.181S185.181S186.181S184.17wS184.17xS184.17yS184.18lS183.18nS184.18nS187.18lS183.17wS183.17xS183.17yS",
    "184.17wS184.17xS184.17yS187.18lS188.18lS17r.18rS17r.18rSiV17u.17w.18lS17u.17x.17wS17u.17x.17wS17u.17x.18lS",
    "17u.17y.18lS17u.18l.17wS17u.18l.17xS17u.18l.17yS17w.18l.17xS17w.18l.17xS17x.18l.18qS17x.18l.18pS",
    "183.17x.17wS183.17w.17xS183.17w.18pS183.18l.17xS183.18l.17xS183.18l.17wS183.18l.18lS183.18l.18lS",
    "185.17x.17xS185.17x.17xS185.18l.18lS184.17x.18lS184.17x.18lS184.17w.18qS184.18l.17yS184.18l.17yS",
    "184.18l.18lS184.18l.18lS186.17x.18pS186.17y.18lS186.17y.18lS187.18l.17xS187.18l.17xS187.18l.18lS",
    "187.18l.18qS189.17w.18lS189.18l.18lS189.18l.18lS189.18l.18pS18a.18l.18lS18a.18l.18qS18a.18l.18pS",
    "18h.17y.18lS18h.17y.18lS18i.18l.17xS18i.18l.18lS18k.17x.18lS18k.17x.18qS18k.17x.18pS18k.17w.17wS",
    "18k.17w.17wS18k.17y.18lS18k.17y.18lS18k.18l.17xS18k.18l.17xS18l.17x.17wS18l.17x.18lS18l.17x.18qS",
    "18l.17w.17xS18l.17w.18lS18l.17y.17wS18l.17y.18lS2V18l.17w.17yS18n.18l.17wS18n.18l.18lS18m.17x.18lS",
    "18m.17x.18pS18m.17w.18lS18m.17w.18lS18m.17w.18pS18m.18l.18qS18m.18l.18pS18q.18l.18lS18q.18l.18lS",
    "17s.17y.18qS17u.17w.18qS17u.17w.18pS17u.17y.18qS17u.17y.18pS17u.18l.18qS17u.18l.18pS17w.18l.18qS",
    "17w.17x.18pS17w.18l.18pS183.17y.18pS185.17x.18qS184.17x.18qS186.17x.18qS18k.17w.18qS18k.18l.18qS",
    "18q.17x.18qS18q.17w.18qS18q.18l.18qS18l.18l.18qS18i.18l.18qS18m.17x.18qS18i.18l.17xS18k.17x.18lS",
    "189.18l.18qS18j.18l.18qS18m.17w.17xS18l.17y.18qS18k.17w.18lS18j.18l.18lS18k.17w.18lS18m.17w.17xS",
    "17w.17x.18qS17x.17w.18qS18l.17w.18qS18h.18l.18qS17s.17x.18qS18j.18l.18lS189.17w.18lS185.18l.18lS",
    "183.17y.18qS18m.17w.18qS8VwX185.18k.1ciS18i.18k.1ciS17r.18k.18k.18nS17r.18j.17s.181S18l.17x.18l.17zS",
    "185.18k.189.18lS181.183.18o.18kS189.18k.18q.18nS18o.183.18k.18lS185.18k.18pS",
    "185.18k.18p.w.17r.18k.18k.18n.w.189.18k.18q.18n.w.18o.183.18k.18lS17w.18k.w.17w.18k.17r.18k.18nS",
    "181.1cc.17r.18kS3VgI18S9hdS1X2.1mRxS1rS2.9hyR7XgV1X6c4S6c3S2.2nC2.14R3fS3hS2.9hwR2.9hsR2.9hmR2.9hkR4.9hoR",
    "2V2jS2lSw.lhSw.lhSw.lhSw.lhS3.2nC18S9hdS2X1nS1mS1rSxS6c4S2.14R3fS3hS2.9hwRzS12S2.16R19S1oS1qS1pS1X2kS2.10R",
    "1sS4Xw.18rS18g.18rSw.18sS1Vw.18tS1Xw.18uS18g.18uSw.18vS18g.18vSw.18wS18g.18wSw.18xS18g.18xSw.18yS18g.18yS",
    "2.17lR2.17mR2.17nR2.17oR2.17pR3.17qC2.17rC4.17sC2.17tC4.17uC4.17vC4.17wC4.17xC4.17yC2.17zC2.180C2.181C",
    "2.182C4.183C4.184C4.185C4.186C4.187C4.188C4.189C4.18aC4.18hC4.18iC4.18jC4.18kC4.18lC4.18mC4.18nC2.18oC",
    "2.18pC4.18qC18k.17mS18k.17mS18k.17nS18k.17nS18k.17pS18k.17pS18k.17rS18k.17rS2X1I1Xw.xRq.2pR10.2jR2.879R1aS",
    "2.9hoR9hdS9obS9o2S9ltS9lvS9lxS9lzS9m1S9nnS9npS9nrS9mrS9ocS9luS9lwS9lyS9m0S2.9m2R9m5S9m7S9m9S9mbS9mdS9mfS",
    "9mhS9mjS9mlS9mnS9mpS9msS9muS9mwS6.9myR9n6S9n9S9ncS9nfS5.9niR9noS9nqS6.9nsR9nzS9o3S2.9llR1I2.3cwR3hmS3cyS",
    "2.3hoR3.3czR6.3hsR3dmS3.3d2R3dtSa.3d5R3X6.3flR2X6.3frR2X6.3fxR2X3.3g3R3X2.4iR4sSw.lgS4mS4lS6g9S1X7b6S",
    "4.6moR7fkS7grShXcV1XqV1XjV1X2V1XfV2XeVyX3fV5X3V4X19V3X2gV1XdV3X1V1bX1aV3mXtV3X1dVfXsV4X10V9XuV5X17V5XuV1X",
    "11V4XeV16X14.1fe0R3aV2XaV6X10.1fiwR4X10V4X14V8X1gVbX1Vb.1fo7R1Xf.1fojR1X7.1fozR1X2.1fp7R1XbV1XfV1X7V1X2V3X",
    "1gVcX8nV9XmVaX8VoX1V2.k0R6eSihSgjS1XirSxuuSitSisS2.gmR5u9SgoSguSixSh0SgySgwSijS87SikSh3ShwS2.iyRh8S2mmcS",
    "x3iShaS2mmdSi6S2mmeS6wS2.hiR35ShmS2mmgS2.hpRhsSiwSiuSxuvSivSi0S8s1S1Xi7S2.ipRigS3.cgR2mmiS2mn2S1xX6V2X1V1X",
    "18V1X2V3X1V2XnV1X20V8X9V1cXjV1X2V5XxV3XrV5XrV12X1kV4XkV2X1eV1X2V5X8V1X3V1XtV2X3V4XaV7X9V7X1sVwX13V4XcV9X",
    "1iV3XtV2XrV5XqV7X4VcX7V28X21V1jX1f.1h34RdX1fV7X1aV8XaV6XgVm.1h80R3XtV8X2V5sXvV1X16V1X3V2X2VgX6V8X9VxX1aV8X",
    "16VmXqV12XsVkXnV9X26V4X10V9X1qV1X5VdXpV7XaV6X1hV1XiV8X13V9X2oV1XkVbXiV1X1bV1qX7V1X1V1X4V1XfV1XbV6X1nV5XaV",
    "6X4V1X8V2X2V2XmV1X7V1X2V1X5V1XaV2X2V2X3V2X1V6X1V5X7V2X7V3X5VbXaV1X1V2X1V1X12V1XaV1X1V2X1V1X4V1XaV1X2V8X2V",
    "tX2kV1X5VuX20V8XaV4mX1iV2X12VyX1xVbXaV6XdVjX1mV6XaV6XkVsXrV2XfV4XnV55X1oV2sXw.1jggR1fVcX8V2X1V2X8V1X2V1XuV",
    "1X2V2XcV9XaV1yX8V2X1aV2XbVrX20V8X2bVdX21V7XaV2eX8V2gXyVeXaV6X9V1X19V1XeVaXtV3XwV2XmV1XeV21X7V1X2V1X18V3X1V",
    "1X2V1X9V8XaV6X6V1X2V1X11V1X2V1X6V7XaV6X18V4XaV6uXpV7XhV1X15V3XtV2dX1VfX1eVdXpnV2uX33V1X5VbX5gV218X2rVdXtsV",
    "gXmVaX32zV5Xg7V5a1X1mV1c6XftV7XvV1XaV4X29V1XaV6XuV2X6VaX1yVaXaV1X7V1XlV5XjVc0X1mV5iXw.20dcR1nV5Xp.20fvR2X",
    "pV18X23V4X1lV7XhV1sX5VbX7V9X5p2V15XwV2pX37V6ppX4V1X7V1X2V1X83VfX1VtX3V2X1VeX4V8Xb0V1s4X2zV5XdV3X9V7XaV2X4V",
    "4I318X5yVq.2pRa.1cR3V3Xc4V6XnVfXhVfX1aV2XnV9X38V1oX6uVaX13V2X1hV2jx3.2jxhS2jx4.2jxhS2jx4.2jxh.2jxqS",
    "2jx4.2jxh.2jxrS2jx4.2jxh.2jxsS2jx4.2jxh.2jxtS2jx4.2jxh.2jxuSeV8I1sV2jzt.2jxhS2jzu.2jxhS2jzt.2jxh.2jxqS",
    "2jzu.2jxh.2jxqS2jzt.2jxh.2jxrS2jzu.2jxh.2jxrS16VlX1yV3eXkVcXkVcX2fV9XpV3rXq.2pRq.2pRq.2pR7.2pR1Xi.2xRq.2pR",
    "q.2pR2pS1X2.2rR2X2vS2X2.2yR2X4.32R1X8.37R4.2pR1X2uS1X7.2wR1Xb.34Rq.2pRq.2pR2.2pR1X4.2sR2X8.2yR1X7.37R1X",
    "q.2pR2.2pR1X4.2sR1X5.2xR1X33S3X7.37R1Xq.2pRq.2pRq.2pRq.2pRq.2pRq.2pRq.2pRq.2pRq.2pRq.2pRq.2pRq.2pRq.2pR8hS",
    "frS2Xh.q9RqgS7.qrR6pzSh.q9R2.qrC6.qsR6puSqdSqgSqiSquSqpSqoSh.q9RqgS7.qrR6pzSh.q9R2.qrC6.qsR6puSqdSqgSqiS",
    "quSqpSqoSh.q9RqgS7.qrR6pzSh.q9R2.qrC6.qsR6puSqdSqgSqiSquSqpSqoSh.q9RqgS7.qrR6pzSh.q9R2.qrC6.qsR6puSqdSqgS",
    "qiSquSqpSqoSh.q9RqgS7.qrR6pzSh.q9R2.qrC6.qsR6puSqdSqgSqiSquSqpSqoS2.rhC2Xa.1cRa.1cRa.1cRa.1cRa.1cRi4VfX5V",
    "1XfVuoXvV6X6V5xX7V1XhV2X7V1X2V1X5V5X9.tsR3.u2Rb.u6RujS2.ulRww9SyhSuuSuwSyxSxbSy7S9.tsR2.u2R2.u6Ru9S6.ubR",
    "2.uiRwhSuuSutSv3Sx7SwupSxdSxX1V34X19V3XeV2XaV4X2V8wXvVhX1mV5X1VcwX16V5yX17V4X1V5cXvV1XmV8X2V68X7V1X4V1X2V",
    "1XfV1X5hV2XgV15Xy.2omaR16V4XaV4X2VltX1wV24X1pV5eX2.17rR17wS17zS1X18oS182S17xS187S18qS4.18jR183S189S18hS",
    "185S18iS181S184S2.17uR17yS180S186S188S18aS19qS1buS1b5S19rS1X17sS17wS1X18nS2X17xS1X18qS4.18jR183S189S18hS",
    "185S18iS1X184S2.17uR17yS1X186S1X18aS6X17wS4X17xS1X18qS1X18kS1X18mS183S189S1X185S18iS1X184S2X17yS1X186S1X",
    "18aS1X1buS1X19rS1X17sS17wS1X18nS2X17xS187S18qS18jS1X2.18lR183S189S18hS185S18iS1X184S2.17uR17yS1X186S188S",
    "18aS19qS1X1b5S1X2.17rR17wS17zS2.18nR182S17xS187S18qS1X3.18kR183S189S18hS185S18iS181S184S2.17uR17yS180S186S",
    "188S18aS5X17sS17wS17zS1X18oS182S17xS187S18qS1X3.18kR183S189S18hS185S18iS181S184S2.17uR17yS180S186S188S18aS",
    "1gX2V7iX18V4X2sVcXfV2XfV1XfV1X11VbX1c.18S1d.18S1e.18S1f.18S1g.18S1h.18S1i.18S1j.18S1k.18S1l.18S5V14.2p.15S",
    "14.2q.15S14.2r.15S14.2s.15S14.2t.15S14.2u.15S14.2v.15S14.2w.15S14.2x.15S14.2y.15S14.2z.15S14.30.15S",
    "14.31.15S14.32.15S14.33.15S14.34.15S14.35.15S14.36.15S14.37.15S14.38.15S14.39.15S14.3a.15S14.3b.15S",
    "14.3c.15S14.3d.15S14.3e.15S9hw.37.9hxS2rS36S2r.2sS3b.3eS1Vq.2pR2w.3aS31.3aS37.2sS37.37S34.34.3aS3b.2rSqV",
    "31.2rS31.2sS31.36SzV2s.2yStV1kXqV9kr.9jfS9mb.9mbS9mdSdXjezSi1jSgjwS9mvSfikShlmSr8jShm1Sfj8Sk68SmchSk2hS",
    "g99SivgSg3xSk34Sg7xSoqqSn4vSrs9ShkgSgmxSlxwSjh1SjmdSfeoSfexSsi2SijqSffxSgkzSjk7SrxsSjf7So01So6ySglkSltsS",
    "kcpSkcoSn5fSgaaSgxiSsp9S4X9hw.kdo.9hxS9hw.fex.9hxS9hw.fik.9hxS9hw.i2x.9hxS9hw.m9l.9hxS9hw.jf7.9hxS",
    "9hw.nh3.9hxS9hw.gd9.9hxS9hw.k0n.9hxS7XivrSgkvSeX6V4aXrdV3XhV3XdV3X62V6XcV4X1VfXcV4X1kV8XaV6X14V8XuV2XcV4X",
    "2VeX9V13X9kV8XeV2XdV3XbV3X1lV1X1V4XgV2XcV4XaV7X43V1X2kVa.1cR1VslXwyoVwX3dqV2X4geV2X5rlVfXhaV1wiXfgdSfg8S",
    "fghS2tcySfogSfqmSfqzSfsySfwaSfx5SfzbSfynSae6S2ud6Sg25Sg2cSg2sSg3bS2u58SaexSg2vSg3xS2u6jSg47Sg4kSfkcSg4sS",
    "g51S3ly7Sg6tSg77SafzSg8rSg92SgaaSgafSahhSgcnSgcpSgdgSge2S2.gedRgevSgg9SgghSggqSghfSghpS3.ghrC2v58Sm7kSgjuS",
    "gkfS2vdvSgkrSgkxSgliSgpqSgmwSgncSgo8SgpuSgs6SgswSgurSgv7S2.gw4CgwpSgx7SgxfSgxuSh7aSgzqSh7bSh1tSh2sSg7bS",
    "hkeShceShdgShe5ShajShf6Shf5ShikS2x9gShkiShknShl2ShlmShluShnmS2xm0S2xnuShrgShsrSht3ShqwShuuSaumSav0ShzcS",
    "2.i0uC2y88Si4jSi54Si5jSi5vS2yhkSi67Si6eSitvSi76SaypSi8wSi9aSibkSia5S2z1gSif7S2z1iSigeSigbSigsS2.ijlRb3jS",
    "ikdSilkSim5SindSb4yS2zr7Sb5oSipcSipfSipiSiq2S3pg2SiriS2.3035CpohS2.isiCb7rS335kS3cgqSiuaSiujSb8jSivuSix9S",
    "ixjSiyhSj29SbaySba4Sj2sS30t0Sj47Sj7sSj7wSj7ySj7wSj96Sj9qSjaqSjacSjanSjbySjciSjcmSjdcSjdnSjfhSjhtSjisSjm8S",
    "31n0SjlpSjjwSjmwSjnnSjqcS31tdSjs2SjphSjopSbhqSju1SjumSjvhSjufSbjgSk0fSk18S32miSk4jSkc8Sk7dSbo9Sk9dSbnsS",
    "bmsSg42Sg45SkcgSk9oSpf1SdehSkd3Skd7SkddSkf2SkerS33czSbplSkjeSkg5SkluSkn9S33hpSkniSkkfSkr8SbrxSksiSkv7Skx6S",
    "l2gS33xfSl3vSbvcSl5tS34brSl78SbwuSl82Sl9bS2.la2R34p9S2yvfS34saSle6S354sSlhbSlhpSlevSljqSlkuSlmfSlkxSlm1S",
    "lmgSlmtS357iSlkkSlrjSltaSc37SlvvSlvrS35jlSlq1Sm0eS35niS35ouSm2uSm61Sm5aSm57Sc5ySm6iSm7xSm7rSm99S2u5hSmdhS",
    "368zSmfwS36i3SmjsSmk5SmkwS36ywSmm8SmmtS3779S37dgSmt6SmtnScdoSmudS2.ce0CmyvSmzgSn01Sn0lSn2iScgrSn50S386uS",
    "n5qS389eSn74S2zrzSnbkS38v5S38vsS38zoScn0ScncSnhwS394jS394iS395lS396bS2.nj2Rnj3SnkaScopSnm3Scp2ScraS39r1S",
    "nriSnt8Snv0SctfS3a5iSnyuS3a8qS3a9xSo0fSo2zScvjSo5cSo5mSo5rS3at8S2.3b1jCoa6Sd1eS3b8rSog6Sog9Sd2fS3beoSonmS",
    "d5sSoo8Soo3SoowS3c06SornSd8hSoufSow2SoxxSd9wS3ciwS3cjrSdaxS3cntSp6iS3cqmSp79Spa2SpadS3d22S3d43SpcwS3d7sS",
    "pdcS33a7SdedSpf6SphfSdfvSpj2Shx1S3dlzS3dmdS33bnS33bwSpohSpokSsdaSdijSpshSpsbSpstSgc3SptdSptfSptpSpuuS3ebgS",
    "putSpwdSpybSq0dSpwjSq0tSq1zSq53SpxvSq16Sq18Sq1oS3eieS3eqzS3emtSdnvSq9dSq9fSqaeS3g0aSqckS3f3gSdp9SdpdS3f75S",
    "3ff6SdpnSqj4SqjgSqjrSqjtSqllSqkoSqoeSqn6SqrdSqp4SqqzSqrqSdsnSqu9Sqv5SdtlSqxsSqxvS3givSr13Sr1aSdv9Sr22SaezS",
    "3gz2S3h46Sdz2SdzbSrdsSrfxSrkaSrpxS3hrcSrsbSrsxSrvfSrxzS3i9bS2upwSs0bSrzwSs1cS2uvySs7oSsagS3jkiS3jl9Ssk4S",
    "smpSsnlS3ju6SsnvSsvsS2.t07RsxoSt89St91S3ksaStjfSej9StknS3l2vSeliSts3SiiaSturS3ltxS3lzuSepaSepiSu00S3mdmS",
    "er6S3mhiS2.u17Cu21S3mpiSu76SeurSu95SucnSudeSuf2Sez2S3nsgSumqSuv4Sv0dSf66Sf71Sv3bS3oweSf7cS3oxxS3p5aS3p8xS",
    "vcrSf9ySvehSvemSvetSvf3SvfaSvgbS3pxcS15uX3t7V5X6juVf62uX6oI47bkX"]

/-- What a character is mapped to; none if it is refused. --/
def mapped? (c : Char) : Option (List Char) :=
  match mapping.range? c with
  | none => some [c]
  | some r =>
    match r.value with
    | .dropped => some []
    | .refused => none
    | .pairs => some [if (c.toNat - r.first) % 2 = 0 then Char.ofNat (c.toNat + 1) else c]
    | .shifted target => some [Char.ofNat (target + (c.toNat - r.first))]
    | .replaced cs => some cs

end Domain
end AnsibleStaging
