import PageTelemetry.Unicode.Table

/-! Canonical decomposition, order and composition of code points (normal form C). -/
namespace PageTelemetry.Unicode

/-- One step of the canonical decomposition. `C` also composes back; `D` does not. -/
def decompositionText : String :=
  "5cC,1t,lc C,1t,ld C,1t,le C,1t,lf C,1t,lk C,1t,lm 1C,1v,mf C,1x,lc C,1x,ld C,1x,le C,1x,lk
C,21,lc C,21,ld C,21,le C,21,lk 1C,26,lf C,27,lc C,27,ld C,27,le C,27,lf C,27,lk 2C,2d,lc
C,2d,ld C,2d,le C,2d,lk C,2h,ld 2C,2p,lc C,2p,ld C,2p,le C,2p,lf C,2p,lk C,2p,lm 1C,2r,mf
C,2t,lc C,2t,ld C,2t,le C,2t,lk C,2x,lc C,2x,ld C,2x,le C,2x,lk 1C,32,lf C,33,lc C,33,ld
C,33,le C,33,lf C,33,lk 2C,39,lc C,39,ld C,39,le C,39,lk C,3d,ld 1C,3d,lk C,1t,lg C,2p,lg
C,1t,li C,2p,li C,1t,mg C,2p,mg C,1v,ld C,2r,ld C,1v,le C,2r,le C,1v,lj C,2r,lj C,1v,lo
C,2r,lo C,1w,lo C,2s,lo 2C,1x,lg C,2t,lg C,1x,li C,2t,li C,1x,lj C,2t,lj C,1x,mg C,2t,mg
C,1x,lo C,2t,lo C,1z,le C,2v,le C,1z,li C,2v,li C,1z,lj C,2v,lj C,1z,mf C,2v,mf C,20,le
C,2w,le 2C,21,lf C,2x,lf C,21,lg C,2x,lg C,21,li C,2x,li C,21,mg C,2x,mg C,21,lj 3C,22,le
C,2y,le C,23,mf C,2z,mf 1C,24,ld C,30,ld C,24,mf C,30,mf C,24,lo C,30,lo 4C,26,ld C,32,ld
C,26,mf C,32,mf C,26,lo C,32,lo 3C,27,lg C,33,lg C,27,li C,33,li C,27,ln C,33,ln 2C,2a,ld
C,36,ld C,2a,mf C,36,mf C,2a,lo C,36,lo C,2b,ld C,37,ld C,2b,le C,37,le C,2b,mf C,37,mf
C,2b,lo C,37,lo C,2c,mf C,38,mf C,2c,lo C,38,lo 2C,2d,lf C,39,lf C,2d,lg C,39,lg C,2d,li
C,39,li C,2d,lm C,39,lm C,2d,ln C,39,ln C,2d,mg C,39,mg C,2f,le C,3b,le C,2h,le C,3d,le
C,2h,lk C,2i,ld C,3e,ld C,2i,lj C,3e,lj C,2i,lo C,3e,lo xC,27,m3 C,33,m3 dC,2d,m3 C,39,m3
sC,1t,lo C,2p,lo C,21,lo C,2x,lo C,27,lo C,33,lo C,2d,lo C,39,lo C,64,lg C,70,lg C,64,ld
C,70,ld C,64,lo C,70,lo C,64,lc C,70,lc 1C,5g,lg C,6c,lg C,fa,lg C,fb,lg C,5i,lg C,6e,lg
2C,1z,lo C,2v,lo C,23,lo C,2z,lo C,27,mg C,33,mg C,dm,lg C,dn,lg C,c7,lo C,ia,lo C,2y,lo
3C,1z,ld C,2v,ld 2C,26,lc C,32,lc C,5h,ld C,6d,ld C,5i,ld C,6e,ld C,60,ld C,6w,ld C,1t,lr
C,2p,lr C,1t,lt C,2p,lt C,1x,lr C,2t,lr C,1x,lt C,2t,lt C,21,lr C,2x,lr C,21,lt C,2x,lt
C,27,lr C,33,lr C,27,lt C,33,lt C,2a,lr C,36,lr C,2a,lt C,36,lt C,2d,lr C,39,lr C,2d,lt
C,39,lt C,2b,me C,37,me C,2c,me C,38,me 2C,20,lo C,2w,lo 6C,1t,lj C,2p,lj C,1x,mf C,2t,mf
C,5y,lg C,6u,lg C,5x,lg C,6t,lg C,27,lj C,33,lj C,fi,lg C,fj,lg C,2h,lg C,3d,lg 7gD,lc D,ld
1D,lv D,lk,ld 1bD,jd 9D,1n 6C,4o,ld C,pd,ld D,53 C,ph,ld C,pj,ld C,pl,ld 1C,pr,ld 1C,px,ld
C,q1,ld C,qy,ld pC,pl,lk C,px,lk C,q9,ld C,qd,ld C,qf,ld C,qh,ld C,qz,ld pC,qh,lk C,qt,lk
C,qn,ld C,qt,ld C,qx,ld 4C,r6,ld C,r6,lk 17C,t1,lc C,t1,lk 1C,sz,ld 3C,sm,lk 4C,t6,ld
C,t4,lc C,tf,li aC,t4,li vC,u0,li mC,tx,lc C,tx,lk 1C,tv,ld 3C,uu,lk 4C,u2,ld C,u0,lc
C,ub,li nC,vo,lr C,vp,lr 21C,t2,li C,ty,li dC,sw,li C,ts,li C,sw,lk C,ts,lk 2C,t1,li
C,tx,li 2C,yg,lk C,yh,lk C,t2,lk C,ty,lk C,t3,lk C,tz,lk 2C,t4,lg C,u0,lg C,t4,lk C,u0,lk
C,ta,lk C,u6,lk 2C,yw,lk C,yx,lk C,tp,lk C,ul,lk C,tf,lg C,ub,lg C,tf,lk C,ub,lk C,tf,ln
C,ub,ln C,tj,lk C,uf,lk 2C,tn,lk C,uj,lk 88C,17r,18z C,17r,190 C,18o,190 C,17r,191
C,18q,190 49C,1cl,190 1C,1c1,190 gC,1ci,190 glC,1t4,1to 7C,1tc,1to 2C,1tf,1to zD,1sl,1to
D,1sm,1to D,1sn,1to D,1ss,1to D,1sx,1to D,1sy,1to D,1t7,1to D,1tb,1to 2zC,1xj,1xa C,1xj,1xz
fD,1wh,1x8 D,1wi,1x8 1D,1wv,1x8 2bD,20i,20s 2D,20o,20s yD,1zq,20s D,1zr,20s D,1zw,20s
2D,20b,20s 6hC,287,28m 2C,287,27y C,287,28n fD,275,27w D,276,27w 1iC,2aa,2c7 1hC,2bq,2bi
C,2br,2bi C,2bq,2c7 3fC,2fa,2fq 3bC,2in,2j9 6C,2iu,2j9 C,2iu,2ja 1C,2iu,2iq C,2iy,2j9
3iC,2me,2m6 C,2mf,2m6 C,2me,2mv 3xC,2qh,2q2 1C,2qh,2q7 C,2qk,2q2 C,2qh,2qn 9wD,30i,33r
9D,30s,33r 4D,30x,33r 4D,312,33r 4D,317,33r cD,30g,33p 9D,31t,31u 1D,31t,31w D,33m,328
1D,33n,328 8D,31t,328 hD,32q,33r 9D,330,33r 4D,335,33r 4D,33a,33r 4D,33f,33r cD,32o,33p
30C,36t,372 25bC,5c5,5dh 1C,5c7,5dh 1C,5c9,5dh 1C,5cb,5dh 1C,5cd,5dh 3C,5ch,5dh 14C,5dm,5dh
1C,5do,5dh 2C,5dq,5dh C,5dr,5dh 1C,5du,5dh jgC,1t,md C,2p,md C,1u,lj C,2q,lj C,1u,mb
C,2q,mb C,1u,mp C,2q,mp C,5j,ld C,6f,ld C,1w,lj C,2s,lj C,1w,mb C,2s,mb C,1w,mp C,2s,mp
C,1w,mf C,2s,mf C,1w,ml C,2s,ml C,7m,lc C,7n,lc C,7m,ld C,7n,ld C,1x,ml C,2t,ml C,1x,mo
C,2t,mo C,fc,li C,fd,li C,1y,lj C,2u,lj C,1z,lg C,2v,lg C,20,lj C,2w,lj C,20,mb C,2w,mb
C,20,lk C,2w,lk C,20,mf C,2w,mf C,20,mm C,2w,mm C,21,mo C,2x,mo C,5r,ld C,6n,ld C,23,ld
C,2z,ld C,23,mb C,2z,mb C,23,mp C,2z,mp C,24,mb C,30,mb C,5yu,lg C,5yv,lg C,24,mp C,30,mp
C,24,ml C,30,ml C,25,ld C,31,ld C,25,lj C,31,lj C,25,mb C,31,mb C,26,lj C,32,lj C,26,mb
C,32,mb C,26,mp C,32,mp C,26,ml C,32,ml C,5x,ld C,6t,ld C,5x,lk C,6t,lk C,98,lc C,99,lc
C,98,ld C,99,ld C,28,ld C,34,ld C,28,lj C,34,lj C,2a,lj C,36,lj C,2a,mb C,36,mb C,5zu,lg
C,5zv,lg C,2a,mp C,36,mp C,2b,lj C,37,lj C,2b,mb C,37,mb C,9m,lj C,9n,lj C,9s,lj C,9t,lj
C,602,lj C,603,lj C,2c,lj C,38,lj C,2c,mb C,38,mb C,2c,mp C,38,mp C,2c,ml C,38,ml C,2d,mc
C,39,mc C,2d,mo C,39,mo C,2d,ml C,39,ml C,a0,ld C,a1,ld C,a2,lk C,a3,lk C,2e,lf C,3a,lf
C,2e,mb C,3a,mb C,2f,lc C,3b,lc C,2f,ld C,3b,ld C,2f,lk C,3b,lk C,2f,lj C,3b,lj C,2f,mb
C,3b,mb C,2g,lj C,3c,lj C,2g,lk C,3c,lk C,2h,lj C,3d,lj C,2i,le C,3e,le C,2i,mb C,3e,mb
C,2i,mp C,3e,mp C,2w,mp C,38,lk C,3b,lm C,3d,lm 1C,an,lj 4C,1t,mb C,2p,mb C,1t,ll C,2p,ll
C,5e,ld C,6a,ld C,5e,lc C,6a,lc C,5e,ll C,6a,ll C,5e,lf C,6a,lf C,61s,le C,61t,le C,76,ld
C,77,ld C,76,lc C,77,lc C,76,ll C,77,ll C,76,lf C,77,lf C,61s,li C,61t,li C,1x,mb C,2t,mb
C,1x,ll C,2t,ll C,1x,lf C,2t,lf C,5m,ld C,6i,ld C,5m,lc C,6i,lc C,5m,ll C,6i,ll C,5m,lf
C,6i,lf C,62g,le C,62h,le C,21,ll C,2x,ll C,21,mb C,2x,mb C,27,mb C,33,mb C,27,ll C,33,ll
C,5w,ld C,6s,ld C,5w,lc C,6s,lc C,5w,ll C,6s,ll C,5w,lf C,6s,lf C,630,le C,631,le C,bk,ld
C,bl,ld C,bk,lc C,bl,lc C,bk,ll C,bl,ll C,bk,lf C,bl,lf C,bk,mb C,bl,mb C,2d,mb C,39,mb
C,2d,ll C,39,ll C,bz,ld C,c0,ld C,bz,lc C,c0,lc C,bz,ll C,c0,ll C,bz,lf C,c0,lf C,bz,mb
C,c0,mb C,2h,lc C,3d,lc C,2h,mb C,3d,mb C,2h,ll C,3d,ll C,2h,lf C,3d,lf 6C,q9,lv C,q9,lw
C,64g,lc C,64h,lc C,64g,ld C,64h,ld C,64g,n6 C,64h,n6 C,pd,lv C,pd,lw C,64o,lc C,64p,lc
C,64o,ld C,64p,ld C,64o,n6 C,64p,n6 C,qd,lv C,qd,lw C,64w,lc C,64x,lc C,64w,ld C,64x,ld
2C,ph,lv C,ph,lw C,654,lc C,655,lc C,654,ld C,655,ld 2C,qf,lv C,qf,lw C,65c,lc C,65d,lc
C,65c,ld C,65d,ld C,65c,n6 C,65d,n6 C,pj,lv C,pj,lw C,65k,lc C,65l,lc C,65k,ld C,65l,ld
C,65k,n6 C,65l,n6 C,qh,lv C,qh,lw C,65s,lc C,65t,lc C,65s,ld C,65t,ld C,65s,n6 C,65t,n6
C,pl,lv C,pl,lw C,660,lc C,661,lc C,660,ld C,661,ld C,660,n6 C,661,n6 C,qn,lv C,qn,lw
C,668,lc C,669,lc C,668,ld C,669,ld 2C,pr,lv C,pr,lw C,66g,lc C,66h,lc C,66g,ld C,66h,ld
2C,qt,lv C,qt,lw C,66o,lc C,66p,lc C,66o,ld C,66p,ld C,66o,n6 C,66p,n6 1C,px,lw 1C,66x,lc
1C,66x,ld 1C,66x,n6 C,qx,lv C,qx,lw C,674,lc C,675,lc C,674,ld C,675,ld C,674,n6 C,675,n6
C,q1,lv C,q1,lw C,67c,lc C,67d,lc C,67c,ld C,67d,ld C,67c,n6 C,67d,n6 C,q9,lc D,q9,ld
C,qd,lc D,qd,ld C,qf,lc D,qf,ld C,qh,lc D,qh,ld C,qn,lc D,qn,ld C,qt,lc D,qt,ld C,qx,lc
D,qx,ld 2C,64g,n9 C,64h,n9 C,64i,n9 C,64j,n9 C,64k,n9 C,64l,n9 C,64m,n9 C,64n,n9 C,64o,n9
C,64p,n9 C,64q,n9 C,64r,n9 C,64s,n9 C,64t,n9 C,64u,n9 C,64v,n9 C,65c,n9 C,65d,n9 C,65e,n9
C,65f,n9 C,65g,n9 C,65h,n9 C,65i,n9 C,65j,n9 C,65k,n9 C,65l,n9 C,65m,n9 C,65n,n9 C,65o,n9
C,65p,n9 C,65q,n9 C,65r,n9 C,674,n9 C,675,n9 C,676,n9 C,677,n9 C,678,n9 C,679,n9 C,67a,n9
C,67b,n9 C,67c,n9 C,67d,n9 C,67e,n9 C,67f,n9 C,67g,n9 C,67h,n9 C,67i,n9 C,67j,n9 C,q9,li
C,q9,lg C,67k,n9 C,q9,n9 C,q4,n9 1C,q9,n6 C,69i,n9 C,pd,li C,pd,lg C,pd,lc D,pd,ld C,pd,n9
1D,qh 2C,4o,n6 C,67o,n9 C,qf,n9 C,q6,n9 1C,qf,n6 C,69y,n9 C,ph,lc D,ph,ld C,pj,lc D,pj,ld
C,pj,n9 C,69r,lc C,69r,ld C,69r,n6 C,qh,li C,qh,lg C,qy,lc D,qy,ld 2C,qh,n6 C,qy,n6 C,pl,li
C,pl,lg C,pl,lc D,pl,ld 1C,6bi,lc C,6bi,ld C,6bi,n6 C,qt,li C,qt,lg C,qz,lc D,qz,ld C,qp,lv
C,qp,lw C,qt,n6 C,qz,n6 C,px,li C,px,lg C,px,lc D,px,ld C,pt,lw C,4o,lc D,4o,ld D,2o
2C,67w,n9 C,qx,n9 C,r2,n9 1C,qx,n6 C,6ba,n9 C,pr,lc D,pr,ld C,q1,lc D,q1,ld C,q1,n9 D,50
2D,6bm D,6bn 84D,q1 3D,23 D,1t,lm 32C,6mo,mw C,6mq,mw iC,6ms,mw uC,6og,mw C,6ok,mw C,6oi,mw
1gC,6pv,mw 4C,6q0,mw 2C,6q3,mw nC,6qr,mw 1C,6qt,mw qC,6rg,mw 2C,6rn,mw 2C,6rp,mw 1C,6rs,mw
mC,1p,mw 1C,6sh,mw aC,6rx,mw C,1o,mw C,1q,mw C,6sk,mw C,6sl,mw 2C,6sy,mw C,6sz,mw 2C,6t2,mw
C,6t3,mw 6C,6t6,mw C,6t7,mw 2C,6te,mw C,6tf,mw 2C,6ti,mw C,6tj,mw yC,6ua,mw C,6ug,mw
C,6uh,mw C,6uj,mw 1cC,6t8,mw C,6t9,mw C,6tt,mw C,6tu,mw 6C,6uq,mw C,6ur,mw C,6us,mw
C,6ut,mw 1nD,9hk D,9hl 1ipD,8gt,mw 12nC,9jf,9ll 1C,9jh,9ll 1C,9jj,9ll 1C,9jl,9ll 1C,9jn,9ll
1C,9jp,9ll 1C,9jr,9ll 1C,9jt,9ll 1C,9jv,9ll 1C,9jx,9ll 1C,9jz,9ll 1C,9k1,9ll 2C,9k4,9ll
1C,9k6,9ll 1C,9k8,9ll 6C,9kf,9ll C,9kf,9lm 1C,9ki,9ll C,9ki,9lm 1C,9kl,9ll C,9kl,9lm
1C,9ko,9ll C,9ko,9lm 1C,9kr,9ll C,9kr,9lm mC,9ja,9ll 9C,9lp,9ll dC,9m3,9ll 1C,9m5,9ll
1C,9m7,9ll 1C,9m9,9ll 1C,9mb,9ll 1C,9md,9ll 1C,9mf,9ll 1C,9mh,9ll 1C,9mj,9ll 1C,9ml,9ll
1C,9mn,9ll 1C,9mp,9ll 2C,9ms,9ll 1C,9mu,9ll 1C,9mw,9ll 6C,9n3,9ll C,9n3,9lm 1C,9n6,9ll
C,9n6,9lm 1C,9n9,9ll C,9n9,9lm 1C,9nc,9ll C,9nc,9lm 1C,9nf,9ll C,9nf,9lm mC,9ly,9ll
2C,9nz,9ll C,9o0,9ll C,9o1,9ll C,9o2,9ll 3C,9od,9ll 13i9D,rpk D,kc4 D,s7e D,rt4 D,lw1 D,fg2
D,gkl D,vj0 D,vj0 D,hn5 D,ssx D,gw7 D,hmw D,jcm D,ne1 D,p6t D,qin D,qt6 D,r20 D,sjz D,kxu
D,ljv D,mah D,mvy D,q4d D,sq2 D,uep D,fia D,ghh D,l50 D,mjf D,qi5 D,v8e D,ifk D,m3v D,qfh
D,r50 D,jih D,pnc D,qvz D,iq2 D,kd3 D,lm2 D,mpo D,slq D,fpi D,g53 D,gda D,jwk D,l3n D,mj4
D,nhj D,pa9 D,qh2 D,qjg D,s1b D,tv6 D,upb D,v7e D,nt8 D,nzz D,otc D,q15 D,t1g D,vb3 D,rfa
D,hjz D,iro D,okg D,pdq D,mle D,nuy D,rsy D,ttj D,hjs D,i8y D,kyb D,lp6 D,lxr D,oq7 D,oxj
D,tor D,gcy D,pe3 D,g64 D,g5o D,o4c D,ou6 D,q29 D,tpx D,rk0 D,jin D,kxu D,rge D,fg9 D,i5j
D,iz6 D,mtj D,n74 D,gev D,nwb D,fr3 D,iw9 D,ff1 D,lho D,k1k D,opu D,gjn D,hge D,ni9 D,q4p
D,re2 D,la2 D,sds D,lfs D,jjy D,put D,jog D,n6t D,fji D,g2x D,g5l D,kn5 D,oo7 D,prj D,rf6
D,ssv D,gdx D,gn6 D,ho3 D,ir0 D,k3p D,m4e D,nxm D,tkd D,ui2 D,vbr D,vda D,gbf D,kau D,l87
D,sbm D,ino D,j9s D,jcw D,jve D,lyb D,mdl D,n0p D,o22 D,ovo D,pdb D,s9y D,q9a D,sgz D,t3e
D,g7r D,gbn D,gql D,ma0 D,r0i D,re2 D,iq1 D,iyd D,jnf D,l9q D,oji D,mt1 D,fl0 D,h6h D,i5j
D,iii D,izg D,muq D,mzt D,p7e D,pc6 D,svo D,tti D,tvs D,u1k D,fpn D,o1a D,ss4 D,trs D,j4x
D,fie D,fyy D,i5q D,i7z D,k2h D,kxu D,mha D,ncy D,q9o D,sjg D,vil D,k94 D,tny D,gax D,kfv
D,kj7 D,lkx D,luk D,mx5 D,n6h D,nsb D,opc D,u3i D,g31 D,je6 D,tq0 D,fu3 D,ie1 D,lpm D,sa2
D,ivf D,j7o D,kk7 D,mtj D,tqe D,g89 D,glr D,i91 D,k5v D,kem D,ko8 D,lid D,mx2 D,naa D,p6h
D,r0v D,r1d D,sss D,tsy D,gfz D,lve D,gm5 D,mhc D,n14 D,qgq D,tr7 D,uvr D,vbz D,kgn D,lor
D,pns D,o97 D,obk D,olu D,mo0 D,m8p D,riw D,fk0 D,px2 D,g8q D,g7b D,ip2 D,jir D,onq D,i2t
D,ljy D,kac D,saj D,qx8 D,tot D,r63 D,iqb D,g1s D,gxs 2D,hga 1D,k8k 2D,g66 D,mqy D,ngq
D,ny4 D,nz2 D,nz9 D,o0f D,tw6 D,on2 D,p8d 1D,qhe 1D,rg8 2D,shk D,sn1 3D,u7j D,u7w D,u94
D,v5g D,sm6 D,trr D,fqm D,fzb D,g25 D,gcp D,gdg D,ggh D,gwt D,gzq D,h2g D,hfk D,hig D,i90
D,i9a D,j2s D,j8o D,j9q D,jci D,k0f D,k4i D,k9d D,kn9 D,lmf D,lqy D,lya D,mem D,mjv D,mxu
D,ntd D,ny6 D,nyh D,nyg D,nyo D,nyu D,nz1 D,o0d D,o0e D,o5c D,o75 D,og0 D,ovo D,ow9 D,oxt
D,p6a D,pad D,pnx D,prt D,prt D,q53 D,r2o D,r6e D,rgh D,ri1 D,rtf D,ruw D,sdy D,shk D,tsz
D,u0v D,u2j D,j1x D,36cu D,pp4 2D,ffq D,g51 D,g2w D,fpc D,g1x D,g3k D,gcn D,ge2 D,gwt D,gut
D,gwp D,gyq D,hga D,hir D,hms D,hn8 D,huq D,i08 D,iqa D,iqh D,iuh D,iwd D,j4o D,j7y D,j60
D,j9q D,j8g D,jci D,jec D,jpg D,jrw D,jte D,k0m D,k8k D,kd3 D,kd7 D,keu D,l89 D,la2 D,lkx
D,lwb D,lvv D,lya D,m5a D,mem D,nmv D,mk5 D,mnj D,mqy D,n01 D,n46 D,n5n D,nbx D,nbz D,ngq
D,nh7 D,nhw D,nka D,nk0 D,nv0 D,o8h D,og0 D,ol7 D,orf D,ovo D,p4u D,pad D,pxu D,q27 D,qrd
D,r41 D,r5y D,r6e D,ren D,rg8 D,rez D,rgh D,rge D,rfx D,ri1 D,rka D,ruw D,sag D,sj6 D,srd
D,sxi D,tq4 D,tsz D,tw6 D,tzv D,u0v D,u17 D,u2j D,umq D,vj0 D,313e D,3138 D,33dh D,brx
D,cns D,cop D,39e1 D,3bgw D,3i6r D,vgj D,vim 1vD,15l,14k 1D,16a,14n aD,161,14x D,161,14y
D,161,14s,14x D,161,14s,14y D,15c,14n D,15c,14o D,15c,14s D,15d,14s D,15e,14s D,15f,14s
D,15g,14s D,15h,14s D,15i,14s 1D,15k,14s D,15l,14s D,15m,14s D,15n,14s D,15o,14s 1D,15q,14s
1D,15s,14s D,15t,14s 1D,15v,14s D,15w,14s 1D,15y,14s D,15z,14s D,160,14s D,161,14s
D,162,14s D,15h,14p D,15d,14v D,15n,14v D,15w,14v 22iC,1fpu,lj qC,1fq2,lj 245C,1huh,1hve
1C,1huj,1hve eC,1hut,1hve 3mC,1hyp,1hyf C,1hyq,1hyf ezC,1idj,1ida C,1idj,1idz 1iC,1if6,1ih5
1C,1if8,1igr 8C,1iff,1igy 2C,1ifk,1ih5 1fC,1igy,1igy 1C,1igy,1igo C,1igy,1ih5 6qC,1int,1inu
C,1int,1ink 1C,1int,1inx 6zC,1iuw,1iun C,1iux,1iun osC,1jjp,1jjk e7cC,1xr2,1xr2 C,1xr2,1xrd
C,1xr2,1xr3 C,1xrd,1xr3 C,1xr2,1xr4 C,1xr5,1xr3 C,1xr6,1xr3 C,1xr5,1xr4 2f3C,206f,206f
C,206b,206f C,206h,206f jqrD,2jx3,2jxh D,2jx4,2jxh D,2jx4,2jxh,2jxq D,2jx4,2jxh,2jxr
D,2jx4,2jxh,2jxs D,2jx4,2jxh,2jxt D,2jx4,2jxh,2jxu 2eD,2jzt,2jxh D,2jzu,2jxh
D,2jzt,2jxh,2jxq D,2jzu,2jxh,2jxq D,2jzt,2jxh,2jxr D,2jzu,2jxh,2jxr 1m4fD,fgd D,fg8 D,fgh
D,2tcy D,fog D,fqm D,fqz D,fsy D,fwa D,fx5 D,fzb D,fyn D,ae6 D,2ud6 D,g25 D,g2c D,g2s D,g3b
D,2u58 D,aex D,g2v D,g3x D,2u6j D,g47 D,g4k D,fkc D,g4s D,g51 D,3ly7 D,g6t D,g77 D,afz
D,g8r D,g92 D,gaa D,gaf D,ahh D,gcn D,gcp D,gdg D,ge2 D,ged D,gee D,gev D,gg9 D,ggh D,ggq
D,ghf D,ghp D,ghr D,ghr D,ghr D,2v58 D,m7k D,gju D,gkf D,2vdv D,gkr D,gkx D,gli D,gpq D,gmw
D,gnc D,go8 D,gpu D,gs6 D,gsw D,gur D,gv7 D,gw4 D,gw4 D,gwp D,gx7 D,gxf D,gxu D,h7a D,gzq
D,h7b D,h1t D,h2s D,g7b D,hke D,hce D,hdg D,he5 D,haj D,hf6 D,hf5 D,hik D,2x9g D,hki D,hkn
D,hl2 D,hlm D,hlu D,hnm D,2xm0 D,2xnu D,hrg D,hsr D,ht3 D,hqw D,huu D,aum D,av0 D,hzc D,i0u
D,i0u D,2y88 D,i4j D,i54 D,i5j D,i5v D,2yhk D,i67 D,i6e D,itv D,i76 D,ayp D,i8w D,i9a D,ibk
D,ia5 D,2z1g D,if7 D,2z1i D,ige D,igb D,igs D,ijl D,ijm D,b3j D,ikd D,ilk D,im5 D,ind D,b4y
D,2zr7 D,b5o D,ipc D,ipf D,ipi D,iq2 D,3pg2 D,iri D,3035 D,3035 D,poh D,isi D,isi D,b7r
D,335k D,3cgq D,iua D,iuj D,b8j D,ivu D,ix9 D,ixj D,iyh D,j29 D,bay D,ba4 D,j2s D,30t0
D,j47 D,j7s D,j7w D,j7y D,j7w D,j96 D,j9q D,jaq D,jac D,jan D,jby D,jci D,jcm D,jdc D,jdn
D,jfh D,jht D,jis D,jm8 D,31n0 D,jlp D,jjw D,jmw D,jnn D,jqc D,31td D,js2 D,jph D,jop D,bhq
D,ju1 D,jum D,jvh D,juf D,bjg D,k0f D,k18 D,32mi D,k4j D,kc8 D,k7d D,bo9 D,k9d D,bns D,bms
D,g42 D,g45 D,kcg D,k9o D,pf1 D,deh D,kd3 D,kd7 D,kdd D,kf2 D,ker D,33cz D,bpl D,kje D,kg5
D,klu D,kn9 D,33hp D,kni D,kkf D,kr8 D,brx D,ksi D,kv7 D,kx6 D,l2g D,33xf D,l3v D,bvc D,l5t
D,34br D,l78 D,bwu D,l82 D,l9b D,la2 D,la3 D,34p9 D,2yvf D,34sa D,le6 D,354s D,lhb D,lhp
D,lev D,ljq D,lku D,lmf D,lkx D,lm1 D,lmg D,lmt D,357i D,lkk D,lrj D,lta D,c37 D,lvv D,lvr
D,35jl D,lq1 D,m0e D,35ni D,35ou D,m2u D,m61 D,m5a D,m57 D,c5y D,m6i D,m7x D,m7r D,m99
D,2u5h D,mdh D,368z D,mfw D,36i3 D,mjs D,mk5 D,mkw D,36yw D,mm8 D,mmt D,3779 D,37dg D,mt6
D,mtn D,cdo D,mud D,ce0 D,ce0 D,myv D,mzg D,n01 D,n0l D,n2i D,cgr D,n50 D,386u D,n5q D,389e
D,n74 D,2zrz D,nbk D,38v5 D,38vs D,38zo D,cn0 D,cnc D,nhw D,394j D,394i D,395l D,396b D,nj2
D,nj3 D,nj3 D,nka D,cop D,nm3 D,cp2 D,cra D,39r1 D,nri D,nt8 D,nv0 D,ctf D,3a5i D,nyu
D,3a8q D,3a9x D,o0f D,o2z D,cvj D,o5c D,o5m D,o5r D,3at8 D,3b1j D,3b1j D,oa6 D,d1e D,3b8r
D,og6 D,og9 D,d2f D,3beo D,onm D,d5s D,oo8 D,oo3 D,oow D,3c06 D,orn D,d8h D,ouf D,ow2 D,oxx
D,d9w D,3ciw D,3cjr D,dax D,3cnt D,p6i D,3cqm D,p79 D,pa2 D,pad D,3d22 D,3d43 D,pcw D,3d7s
D,pdc D,33a7 D,ded D,pf6 D,phf D,dfv D,pj2 D,hx1 D,3dlz D,3dmd D,33bn D,33bw D,poh D,pok
D,sda D,dij D,psh D,psb D,pst D,gc3 D,ptd D,ptf D,ptp D,puu D,3ebg D,put D,pwd D,pyb D,q0d
D,pwj D,q0t D,q1z D,q53 D,pxv D,q16 D,q18 D,q1o D,3eie D,3eqz D,3emt D,dnv D,q9d D,q9f
D,qae D,3g0a D,qck D,3f3g D,dp9 D,dpd D,3f75 D,3ff6 D,dpn D,qj4 D,qjg D,qjr D,qjt D,qll
D,qko D,qoe D,qn6 D,qrd D,qp4 D,qqz D,qrq D,dsn D,qu9 D,qv5 D,dtl D,qxs D,qxv D,3giv D,r13
D,r1a D,dv9 D,r22 D,aez D,3gz2 D,3h46 D,dz2 D,dzb D,rds D,rfx D,rka D,rpx D,3hrc D,rsb
D,rsx D,rvf D,rxz D,3i9b D,2upw D,s0b D,rzw D,s1c D,2uvy D,s7o D,sag D,3jki D,3jl9 D,sk4
D,smp D,snl D,3ju6 D,snv D,svs D,t07 D,t08 D,sxo D,t89 D,t91 D,3ksa D,tjf D,ej9 D,tkn
D,3l2v D,eli D,ts3 D,iia D,tur D,3ltx D,3lzu D,epa D,epi D,u00 D,3mdm D,er6 D,3mhi D,u17
D,u17 D,u21 D,3mpi D,u76 D,eur D,u95 D,ucn D,ude D,uf2 D,ez2 D,3nsg D,umq D,uv4 D,v0d D,f66
D,f71 D,v3b D,3owe D,f7c D,3oxx D,3p5a D,3p8x D,vcr D,f9y D,veh D,vem D,vet D,vf3 D,vfa
D,vgb D,3pxc"

/-- Canonical combining classes other than 0. -/
def combiningText : String :=
  "lcKl,6e K,6g K4,64 K,6g K,60 K5,64 K2,5m K4,64 K2,5m Kb,64 K5,1 K4,64 K8,6e K,6o K,6e K3,64
K3,6e K2,64 1K3,6e K4,64 K,6e K,6g K2,64 K,6e K,6h K2,6i K,6h K2,6i K,6h Kd,6e 7nK5,6e
7dK,64 K4,6e K,64 K3,6e K,66 K,64 K6,6e K6,64 K2,6e K,64 K2,6e K,66 K,6c K,6e K,a K,b K,c
K,d K,e K,f K,g K,h K,i K2,j K,k K,l K,m 1K,n 1K,o K,p 1K,6e K,64 1K,i 20K8,6e K,u K,v K,w
1cK,r K,s K,t K,u K,v K,w K,x K,y K2,6e K2,64 K5,6e K,64 K2,6e K,64 gK,z 2tK7,6e 2K4,6e
K,64 K,6e 2K2,6e 1K,64 K2,6e K,64 zK,10 uK,6e K,64 K2,6e K,64 K2,6e K3,64 K,6e K2,64 K,6e
K,64 K3,6e K,64 K,6e K,64 K,6e K,64 K,6e K,64 K2,6e 4gK7,6e K,64 K,6e 9K,64 oK4,6e 1K9,6e
1K3,6e 1K5,6e 17K3,64 1nK2,6e K3,64 K4,6e 16K5,6e K5,64 Ke,6e 1K,64 K2,6e K,64 K2,6e K,64
K3,6e K3,64 K,r K,s K,t K3,6e K,64 K2,6e K2,64 K5,6e 1oK,7 gK,9 3K,6e K,64 K2,6e 2vK,7 gK,9
1cK,6e 1pK,7 gK,9 32K,7 gK,9 32K,7 gK,9 3jK,9 32K,7 gK,9 7K,2c K,2j 2tK,7 gK,9 31K2,9 gK,9
3gK,9 31K2,2v K,9 dK4,2z 30K2,3a K,9 dK4,3e 24K2,64 rK,64 1K,64 1K,60 1jK,3l K,3m 1K,3o
5K4,3m 2K,3m 1K2,6e K,9 1K2,6e 1qK,64 34K,7 1K2,9 2aK,64 jzK3,6e qcK2,9 uK,9 4dK,9 aK,6e
5nK,6c 3zK,66 K,6e K,64 63K,6e K,64 1zK,9 kK8,6e 2K,64 1cK5,6e K6,64 K2,6e K,64 1K2,64
K2,6e K2,64 K5,6e K,64 Ki,6e K,64 2K6,6e K,64 K4,6e K,6i 20K,7 fK,9 12K,6e K,64 K7,6e
1iK2,9 1mK,7 bK2,9 1vK,7 48K3,6e 1K,1 K5,64 K2,6e K4,64 K,6e 1K7,1 4K,64 6K,6e 3K2,6e
5iK2,6e K,64 K7,6e K,64 K2,6e K,6i K,5y K,64 K,5m K11,6e K,6g K2,6c K,64 K,62 K,6e K,6h
K,64 K,6e K,64 k0K2,6e K2,1 K4,6e K3,1 K2,6e 4K,6e 3K2,1 K,6e K,64 K,6e K2,1 K4,64 K,6e
2daK3,6e 3xK,9 2oKw,6e feK,62 K,6c K,6g K,66 K2,68 2xK2,8 n9wK,6e 4Ka,6e wK2,6e 28K2,6e
7oK,9 11K,9 47K,9 rKi,6e 1lK3,64 11K,9 2nK,7 cK,9 6nK,6e 1K2,6e K,64 2K2,6e 5K2,6e 1K,6e
1gK,9 6uK,9 fn4K,q ldK7,6e K7,64 K2,6e r1K,64 6aK,64 45K5,6e 1aqK,64 1K,6e 14K,6e K,1 K,64
4K,9 4lK,6e K,64 fxK4,6e 1tK5,6e 8tK2,6e 25K2,64 1K3,64 1yK2,64 K3,6e K,64 K,6e K4,64
1dK,6e K,64 K,6e K,64 5cK,9 15K,9 eK,9 1lK,9 K,7 1xK3,6e 1cK2,9 1qK,7 24K,9 9K,7 2yK,9 K,7
4yK,7 K,9 28K2,7 gK,9 oK7,6e 3K5,6e 2hK3,9 35K,9 3K,7 nK,6e 2rK,9 K,7 6zK,9 K,7 3iK,9 3aK,9
K,7 37K,9 7hK,9 K,7 76K2,9 4K,7 4cK,9 2bK,9 iK,9 29K,9 bpK,9 76K,7 1K2,9 29K,9 btK2,9
d0sK,9 1xcK5,1 1nK7,6e xlK2,6 f58K,1 43qK2,60 K3,1 3K,6a K5,60 8K8,64 2K5,6e K2,64 uK4,6e
44K3,6e 2pnK7,6e 1Kh,6e 2K7,6e 1K2,6e 1K5,6e 2sK,6e 4gK7,6e afK,6e 1pK4,6e e4K2,6g K,64
K,6e 72K,6e K,64 6rK,6e 2K,6e 7K2,6e 5K,6e d6K7,64 31K6,6e K,7"

def decompositionTable : Table := .ofText decompositionText
def combiningTable : Table := .ofText combiningText

def combiningClass (n : Nat) : Nat :=
  match combiningTable.find? n with
  | some ⟨_,_,_,k::_⟩ => k
  | _ => 0

namespace Hangul

def syllableBase : Nat := 0xac00
def leadBase : Nat := 0x1100
def vowelBase : Nat := 0x1161
def tailBase : Nat := 0x11a7
def leadCount : Nat := 19
def vowelCount : Nat := 21
def tailCount : Nat := 28
def syllableCount : Nat := leadCount * vowelCount * tailCount

def isSyllable (n : Nat) : Bool := syllableBase ≤ n && n < syllableBase + syllableCount

def decompose (n : Nat) : List Nat :=
  let i := n - syllableBase
  let lead := leadBase + i / (vowelCount * tailCount)
  let vowel := vowelBase + i % (vowelCount * tailCount) / tailCount
  let tail := tailBase + i % tailCount
  if tail = tailBase then [lead,vowel] else [lead,vowel,tail]

def compose? (a b : Nat) : Option Nat :=
  if leadBase ≤ a && a < leadBase + leadCount && vowelBase ≤ b && b < vowelBase + vowelCount then
    some (syllableBase + ((a - leadBase) * vowelCount + (b - vowelBase)) * tailCount)
  else if isSyllable a && (a - syllableBase) % tailCount == 0 &&
      tailBase < b && b < tailBase + tailCount then
    some (a + (b - tailBase))
  else none

end Hangul

/-- The full decomposition, by repeated steps on the first code point of each. -/
def decomposeSteps : Nat → Nat → List Nat
  | 0, n => [n]
  | steps + 1, n =>
    match decompositionTable.find? n with
    | some ⟨_,_,_,first::rest⟩ => decomposeSteps steps first ++ rest
    | _ => [n]

/-- No code point decomposes in more than four steps. -/
def decompose (n : Nat) : List Nat :=
  if n < 0xc0 then [n] else if Hangul.isSyllable n then Hangul.decompose n else decomposeSteps 4 n

/-- Puts a code point of class `k` behind those before it that have a class of 0 or at most `k`. -/
def insertCombining (n k : Nat) : List Nat → List Nat
  | [] => [n]
  | m::before =>
    let c := combiningClass m
    if c = 0 || c ≤ k then n::m::before else m::insertCombining n k before

/-- Canonical order; the argument in front holds what is done, last code point first. -/
def reorder (done : List Nat) : List Nat → List Nat
  | [] => done.reverse
  | n::rest =>
    let k := combiningClass n
    reorder (if k = 0 then n::done else insertCombining n k done) rest

/-- A pair as one number, to look its composition up. -/
def pairKey (a b : Nat) : Nat := a * 0x110000 + b

def compositionTable : Array (Nat × Nat) :=
  (decompositionTable.foldl (fun pairs run =>
    match run.kind,run.args with
    | 'C',[a,b] => pairs.push (pairKey a b,run.first)
    | _,_ => pairs) #[]).qsort (fun p q => p.1 < q.1)

def searchPair (key : Nat) : Nat → Nat → Nat → Option Nat
  | 0, _, _ => none
  | tries + 1, low, high =>
    if high ≤ low then none
    else
      let middle := (low + high) / 2
      match compositionTable[middle]? with
      | none => none
      | some (k,composed) =>
        if key < k then searchPair key tries low middle
        else if k < key then searchPair key tries (middle + 1) high
        else some composed

def compose? (a b : Nat) : Option Nat :=
  match Hangul.compose? a b with
  | some c => some c
  | none => searchPair (pairKey a b) (compositionTable.size.log2 + 2) 0 compositionTable.size

/-- Composes what follows with the starter; `kept` are the combining code points since it that
stay, last first, and `last` is the class of the last of them. -/
def composeFrom (starter : Nat) (kept : List Nat) (last : Nat) : List Nat → List Nat
  | [] => starter::kept.reverse
  | n::rest =>
    let k := combiningClass n
    match if kept.isEmpty || last < k then compose? starter n else none with
    | some composed => composeFrom composed kept last rest
    | none =>
      if k = 0 then starter::(kept.reverse ++ composeFrom n [] 0 rest)
      else composeFrom starter (n::kept) k rest

def compose : List Nat → List Nat
  | [] => []
  | n::rest => if combiningClass n = 0 then composeFrom n [] 0 rest else n::compose rest

/-- Normal form C. Below U+0300 nothing composes or moves. -/
def normalize (ns : List Nat) : List Nat :=
  if ns.all (· < 0x300) then ns else compose (reorder [] (ns.flatMap decompose))

end PageTelemetry.Unicode
